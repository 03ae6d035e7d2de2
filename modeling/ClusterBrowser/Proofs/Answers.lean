import ClusterBrowser.Json.Writer
import ClusterBrowser.Proofs.Display
import ClusterBrowser.Proofs.Requests

/-!
# Which requests are answered

A browse over a master gives a view unless a URL is refused or the master reports attributes that cannot be shown.

* **`Master.browse_ok_iff`**: when a browse gives a view, and how it fails otherwise.
* `Master.browse_fails_for_far_time`: a time beyond the year 9999 makes it fail.
-/

namespace ClusterBrowser

/-- A call whose URL is refused. -/
def ClusterCall.IsRefused (call : ClusterCall) : Prop := ∃ f, call.failure? = some f ∧ f.IsRefusal

/-- An answer that a view can be made from: its URL was not refused, and what it reports can be shown. -/
structure ClusterCall.IsUsable (call : ClusterCall) : Prop where
  not_refused : ¬ call.IsRefused
  showable : ∀ info ∈ call.infos, info.Showable

theorem showable_iff_mapM {infos : List FileInfo} :
    (∀ info ∈ infos, info.Showable) ↔ ∀ e, infos.mapM Entry.ofInfo ≠ .error e := by
  have hshow : (∀ info ∈ infos, info.Showable) ↔ ∃ rows, infos.mapM Entry.ofInfo = .ok rows := by
    simp only [mapM_isOk_iff, Entry.ofInfo_isOk_iff]
  rw [hshow]
  rcases infos.mapM Entry.ofInfo with e | rows <;> simp

theorem ClusterCall.isUsable_iff {call : ClusterCall} :
    call.IsUsable ↔ ∀ f, ¬ call.Raises Failure.IsRefusal f := by
  constructor
  · rintro ⟨hrefused, hshow⟩
    exact ClusterCall.not_raises (fun f hf hF => hrefused ⟨f, hf, hF⟩) (showable_iff_mapM.mp hshow)
  · intro h
    refine ⟨fun ⟨f, hf, hF⟩ => h f (.inl ⟨hf, hF⟩), showable_iff_mapM.mpr fun e he => ?_⟩
    exact h (.display e) (.inr ⟨e, he, rfl⟩)

namespace Master

variable {τ : Type}

/-- **A browse over an open client gives a view exactly if every answer is usable; otherwise it fails for a URL that is
refused, or with the reason why a report cannot be shown.** -/
theorem browse_ok_iff (m : Master τ) (b : Browser) (req : Request) {conn : Connection τ} (hopen : conn.IsOpen) :
    ((∃ v, ((b.browse m.cluster req).exec conn).1 = .ok v) ↔ ∀ call ∈ b.calls m.cluster req conn, call.IsUsable) ∧
      ∀ f, ((b.browse m.cluster req).exec conn).1 = .error f → f.IsRefusal ∨ ∃ e, f = .display e := by
  constructor
  · simp only [ClusterCall.isUsable_iff]
    exact Browser.browse_ok_iff_calls m.steady_cluster hopen b req
  · intro f hf
    obtain ⟨call, -, ⟨-, h⟩ | ⟨e, -, h⟩⟩ := Browser.raises_of_browse_error m.steady_cluster hopen hf
    · exact .inl h
    · exact .inr ⟨e, h⟩

/-! ## A file from the far future -/

/-- A master that answers every request with the attributes of one file. -/
def oneFile (info : FileInfo) : Master Unit where
  endpoint.base :=
    { scheme := "http".toList, user := [], host := "master".toList, port := some 19999, path := [], query := none }
  address := "master:19999"
  send _ t := (.ok { body := Utf8.encode info.toJson.write }, t)

/-- A file of two bytes. -/
def shortFile : FileInfo := { id := 1, name := "f", path := "/f", length := 2 }

/-- A master that holds one file and answers all requests for its bytes in one way. -/
def serving (info : FileInfo) (answer : Except String Reply) : Master Unit where
  endpoint := (oneFile info).endpoint
  address := "master:19999"
  send request t :=
    if request.path = readResource then (answer, t)
    else if request.path = statusResource then (.ok { body := Utf8.encode info.toJson.write }, t)
    else (.ok { body := Utf8.encode "[]".toList }, t)

theorem browse_ok_iff_oneFile :
    (Connection.mk () false []).IsOpen ∧
      ((∃ v, ((({ workerWebPort := 30000 } : Browser).browse (oneFile { id := 1, name := "f", path := "/f" }).cluster
          { path := some "/f" }).exec (Connection.mk () false [])).1 = .ok v) ↔
        ∀ call ∈ ({ workerWebPort := 30000 } : Browser).calls (oneFile { id := 1, name := "f", path := "/f" }).cluster
          { path := some "/f" } (Connection.mk () false []), call.IsUsable) ∧
      ∀ f, ((({ workerWebPort := 30000 } : Browser).browse (oneFile { id := 1, name := "f", path := "/f" }).cluster
          { path := some "/f" }).exec (Connection.mk () false [])).1 = .error f → f.IsRefusal ∨ ∃ e, f = .display e :=
  ⟨rfl, browse_ok_iff _ _ _ rfl⟩

/-- A time beyond the year 9999 makes a browse fail, although a master may report it. -/
theorem browse_fails_for_far_time :
    ((({ workerWebPort := 30000 } : Browser).browse
      (oneFile { id := 1, name := "f", path := "/f", createdMs := 10 ^ 15 }).cluster
      { path := some "/f" }).exec (Connection.mk () false [])).1 = .error (.display .yearOutOfRange) := by
  decide +kernel

end Master

end ClusterBrowser
