import ClusterBrowser.Display.Size
import ClusterBrowser.Path
import ClusterBrowser.Url.Basic

/-!
# Failures

Two kinds of failure are kept apart.  A `BrowseError` is something a view can report; every other `Failure` ends the
request.

* `BrowseError`: the errors that a view reports.
* `HttpError`: why the application cannot even be asked, or answers nothing.
* `Failure`: all that an action can fail with.
* `Action`: a computation over a state that may fail; a failure keeps the state reached.
-/

namespace ClusterBrowser

/-- An error that a view can report, with its message. -/
inductive BrowseError where
  /-- The text spells no path, or the path is of the wrong kind. -/
  | invalidPath (message : String)
  /-- The path, or one of its ancestors, does not exist. -/
  | pathNotFound (message : String)
  /-- The cluster turned the caller away. -/
  | accessDenied (message : String)
  /-- The cluster could not be reached, or its answer could not be used. -/
  | unavailable (message : String)
  /-- The offset or the limit of a listing is no integer. -/
  | badPagination (message : String)
  /-- The window does not fit into the listing. -/
  | outOfBounds (message : String)
  /-- An error of no particular kind. -/
  | other (message : String)
  deriving DecidableEq, Repr

def BrowseError.message : BrowseError → String
  | .invalidPath m | .pathNotFound m | .accessDenied m | .unavailable m | .badPagination m | .outOfBounds m
  | .other m => m

/-- Why the application cannot be asked, or answers nothing. -/
inductive HttpError where
  /-- The path of the application does not begin with a slash, or ends with one. -/
  | badPath
  /-- A hole in it is of an unknown kind. -/
  | unknownHole
  /-- Two holes in it have one name. -/
  | repeatedHole
  /-- A header of the request is not in ASCII. -/
  | headerNotAscii
  /-- The number in a hole has too many digits. -/
  | numberTooLong
  /-- The number in a hole is beyond all numbers. -/
  | numberTooLarge
  /-- A redirection leads nowhere. -/
  | badRedirection
  deriving DecidableEq, Repr

/-- All that an action can fail with. -/
inductive Failure where
  /-- An error that a view can report. -/
  | browse (e : BrowseError)
  /-- The storage behind a stream failed, or took too long. -/
  | storage (timedOut : Bool) (message : String)
  /-- A number of the cluster cannot be shown. -/
  | display (e : DisplayError)
  /-- A file was to be cut into blocks of no bytes. -/
  | emptyBlocks
  /-- The clock is beyond all numbers. -/
  | clockTooFar
  /-- The client was closed before the call. -/
  | clientClosed
  /-- No client is in service. -/
  | noClient
  /-- What should be asked for has no URL, or none that can be asked. -/
  | url (e : UrlError)
  /-- The application cannot be asked, or answers nothing. -/
  | http (e : HttpError)
  /-- A failure of some other kind, known by its name. -/
  | foreign (kind : String)
  deriving DecidableEq, Repr

instance : Coe BrowseError Failure := ⟨.browse⟩

instance : Coe DisplayError Failure := ⟨.display⟩

instance : Coe UrlError Failure := ⟨.url⟩

instance : Coe HttpError Failure := ⟨.http⟩

/-- A text that spells no path is an invalid path. -/
def PathError.toBrowseError (e : PathError) : BrowseError := .invalidPath e.message

/-- A computation over a state that may fail; a failure keeps the state reached. -/
abbrev Action (σ : Type) := ExceptT Failure (StateM σ)

namespace Action

variable {σ τ α : Type}

/-- The outcome and the final state. -/
def exec (act : Action σ α) (s : σ) : Except Failure α × σ := (ExceptT.run act).run s

/-- An action given by its outcome and final state. -/
def ofFunction (f : σ → Except Failure α × σ) : Action σ α := ExceptT.mk f

/-- The outcome of an action as a value. -/
def observe (act : Action σ α) : Action σ (Except Failure α) :=
  ofFunction fun s => let (r, s') := act.exec s; (.ok r, s')

/-- Like `observe` for the errors that a view reports; other failures pass. -/
def attempt (act : Action σ α) : Action σ (Except BrowseError α) := do
  match ← observe act with
  | .ok a => return .ok a
  | .error (.browse e) => return .error e
  | .error f => throw f

/-- Another failure in place of the one that occurs. -/
def mapFailure (f : Failure → Failure) (act : Action σ α) : Action σ α :=
  ofFunction fun s => let (r, s') := act.exec s; (r.mapError f, s')

/-- Runs an action on a part of the state. -/
def onPart (get : σ → τ) (set : σ → τ → σ) (act : Action τ α) : Action σ α :=
  ofFunction fun s => let (r, t) := act.exec (get s); (r, set s t)

def fail (e : BrowseError) : Action σ α := throw (.browse e)

/-- The value of a computation without a state. -/
def ofExcept {ε : Type} (wrap : ε → Failure) (r : Except ε α) : Action σ α :=
  match r with
  | .ok a => pure a
  | .error e => throw (wrap e)

end Action

end ClusterBrowser
