import ClusterBrowser.Settings.Loading
import Mathlib.Tactic.SplitIfs

/-!
# What settings are loaded

Every field is loaded from what is given for it, whatever is given for the others.

* `Settings.Field`, `Settings.fields`: the fields, with their kinds and defaults.
* `Settings.given`: what is given for a field, by an argument or else by the environment.
* `Settings.Holds`: the settings hold what is given.
* **`Settings.load_eq_ok_iff`**: the settings that are loaded are those that hold what is given.
* `Settings.load_argument`, `Settings.load_variable`, `Settings.load_variable_notJson`: what becomes of one more argument,
  or one more variable, for the origins.
-/

namespace ClusterBrowser

namespace Checked

variable {α β : Type}

theorem seq_eq_ok_iff {f : Checked (α → β)} {a : Checked α} {b : β} :
    f <*> a = .ok b ↔ ∃ g, f = .ok g ∧ ∃ x, a = .ok x ∧ g x = b := by
  cases f <;> cases a <;> simp [Seq.seq, apply]

theorem exists_seq {f : Checked (α → β)} {a : Checked α} {P : β → Prop} :
    (∃ b, f <*> a = .ok b ∧ P b) ↔ ∃ g, f = .ok g ∧ ∃ x, a = .ok x ∧ P (g x) := by
  cases f <;> cases a <;> simp [Seq.seq, apply]

theorem exists_map {f : α → β} {a : Checked α} {P : β → Prop} :
    (∃ b, f <$> a = .ok b ∧ P b) ↔ ∃ x, a = .ok x ∧ P (f x) := by
  cases a <;> simp [Functor.map, apply]

theorem under_eq_ok_iff {step : LocationStep} {a : Checked α} {x : α} : a.under step = .ok x ↔ a = .ok x := by
  cases a <;> simp [under]

end Checked

namespace Json

theorem lookupLast_cons (key name : String) (j : Json) (fields : List (String × Json)) :
    lookupLast key ((name, j) :: fields) = (lookupLast key fields).or (if name = key then some j else none) := by
  rw [lookupLast]
  cases lookupLast key fields <;> rfl

theorem lookupLast_append (key : String) (fields others : List (String × Json)) :
    lookupLast key (fields ++ others) = (lookupLast key others).or (lookupLast key fields) := by
  induction fields with
  | nil => exact (Option.or_none).symm
  | cons field fields ih => rw [List.cons_append, lookupLast_cons, lookupLast_cons, ih, Option.or_assoc]

theorem lookupLast_filterMap (values : String → Option Json) (names : List String) (key : String) :
    lookupLast key (names.filterMap fun name => (values name).map (name, ·)) = if key ∈ names then values key else none := by
  induction names with
  | nil => rfl
  | cons name names ih =>
    rcases hvalue : values name with _ | j
    · simp only [List.filterMap_cons, hvalue, Option.map_none, ih]
      by_cases hkey : key = name
      · simp [hkey, hvalue]
      · simp [hkey]
    · simp only [List.filterMap_cons, hvalue, Option.map_some, lookupLast_cons, ih]
      by_cases hkey : key = name
      · by_cases hmem : name ∈ names <;> simp [hkey, hmem, hvalue]
      · simp [hkey, Ne.symm hkey]

end Json

namespace Settings

/-! ## Fields -/

/-- The setting is what is given, or the default if nothing is. -/
def Takes {α : Type} (value : Json → Checked α) (default : α) (given : Option Json) (a : α) : Prop :=
  match given with
  | some j => value j = .ok a
  | none => a = default

theorem optional_eq_ok_iff {α : Type} {fs : List (String × Json)} {name : String} {value : Json → Checked α} {default a : α} :
    Json.optional fs name value default = .ok a ↔ Takes value default (Json.lookupLast name fs) a := by
  rw [Json.optional]
  cases Json.lookupLast name fs with
  | some j => exact Checked.under_eq_ok_iff
  | none => simp [Takes, eq_comm]

/-- A field of the settings, with its kind and its default. -/
structure Field where
  name : String
  {α : Type}
  value : Json → Checked α
  default : α
  get : Settings → α

def fields : List Field :=
  let d : Settings := {}
  [⟨"app_name", Json.asText, d.appName, appName⟩, ⟨"debug", Json.asBool, d.debug, debug⟩,
    ⟨"environment", Json.asText, d.environment, environment⟩, ⟨"log_level", Json.asText, d.logLevel, logLevel⟩,
    ⟨"host", Json.asText, d.host, host⟩, ⟨"port", Json.asInt, d.port, port⟩,
    ⟨"api_prefix", Json.asText, d.apiPrefix, apiPrefix⟩, ⟨"cors_origins", originsOf, d.corsOrigins, corsOrigins⟩,
    ⟨"master_url", urlOf, d.masterUrl, masterUrl⟩, ⟨"master_address", Json.asText, d.masterAddress, masterAddress⟩,
    ⟨"master_timeout_seconds", Json.asFloat, d.masterTimeout, masterTimeout⟩,
    ⟨"worker_web_port", Json.asInt, d.workerWebPort, workerWebPort⟩,
    ⟨"location_sampling", choiceOf samplings, d.sampling, sampling⟩,
    ⟨"location_failure_policy", choiceOf policies, d.policy, policy⟩, ⟨"mode", Json.asText, d.mode, mode⟩]

theorem Field.name_mem {f : Field} (h : f ∈ fields) : f.name ∈ fieldNames := List.mem_map_of_mem h

/-- The settings hold what is given for their fields, and the defaults where nothing is. -/
def Holds (values : String → Option Json) (s : Settings) : Prop :=
  ∀ f ∈ fields, Takes f.value f.default (values f.name) (f.get s)

theorem ofFields_eq_ok_iff {fs : List (String × Json)} {s : Settings} :
    ofFields fs = .ok s ↔ Holds (Json.lookupLast · fs) s := by
  rw [ofFields, Checked.seq_eq_ok_iff]
  simp only [Checked.exists_seq, Checked.exists_map, optional_eq_ok_iff, Holds, fields, List.forall_mem_cons]
  constructor
  · rintro ⟨_, h₁, _, h₂, _, h₃, _, h₄, _, h₅, _, h₆, _, h₇, _, h₈, _, h₉, _, h₁₀, _, h₁₁, _, h₁₂, _, h₁₃, _, h₁₄, _, h₁₅, rfl⟩
    exact ⟨h₁, h₂, h₃, h₄, h₅, h₆, h₇, h₈, h₉, h₁₀, h₁₁, h₁₂, h₁₃, h₁₄, h₁₅, List.forall_mem_nil _⟩
  · rintro ⟨h₁, h₂, h₃, h₄, h₅, h₆, h₇, h₈, h₉, h₁₀, h₁₁, h₁₂, h₁₃, h₁₄, h₁₅, -⟩
    exact ⟨_, h₁, _, h₂, _, h₃, _, h₄, _, h₅, _, h₆, _, h₇, _, h₈, _, h₉, _, h₁₀, _, h₁₁, _, h₁₂, _, h₁₃, _, h₁₄, _, h₁₅, rfl⟩

theorem Holds.congr {values changed : String → Option Json} {s : Settings} (h : Holds values s)
    (hvalues : ∀ name ∈ fieldNames, changed name = values name) : Holds changed s := by
  intro f hf
  rw [hvalues f.name (Field.name_mem hf)]
  exact h f hf

theorem get_withOrigins (s : Settings) (os : List String) :
    ∀ f ∈ fields, f.name ≠ "cors_origins" → f.get { s with corsOrigins := os } = f.get s := by
  simp [fields]

theorem Holds.withOrigins {values changed : String → Option Json} {s : Settings} {os : List String} (h : Holds values s)
    (hothers : ∀ name ∈ fieldNames, name ≠ "cors_origins" → changed name = values name)
    (horigins : Takes originsOf ({} : Settings).corsOrigins (changed "cors_origins") os) :
    Holds changed { s with corsOrigins := os } := by
  intro f hf
  by_cases hname : f.name = "cors_origins"
  · obtain rfl : f = ⟨"cors_origins", originsOf, ({} : Settings).corsOrigins, corsOrigins⟩ := by
      revert f
      simp [fields]
    exact horigins
  · rw [hothers f.name (Field.name_mem hf) hname, get_withOrigins s os f hf hname]
    exact h f hf

/-! ## What is given -/

variable {env : List (String × String)} {arguments : List (String × Json)} {s : Settings} {name : String} {e : SettingsError}

/-- What the environment gives a field; nothing if it is an error. -/
def environmentValue (env : List (String × String)) (name : String) : Option Json :=
  (fromEnvironment env name).toOption.join

/-- What is given for a field: by an argument, or else by the environment. -/
def given (env : List (String × String)) (arguments : List (String × Json)) (name : String) : Option Json :=
  (argumentNamed arguments name).or (environmentValue env name)

/-- All variables that must hold JSON do. -/
def IsReadable (env : List (String × String)) (names : List String) : Prop :=
  ∀ name ∈ names, ∃ value, fromEnvironment env name = .ok value

theorem eq_notJson_of_fromEnvironment (h : fromEnvironment env name = .error e) : e = .notJson := by
  rw [fromEnvironment] at h
  split at h
  · exact nomatch h
  · split_ifs at h
    split at h
    · exact (Except.error.inj h).symm
    · exact nomatch h
    · exact nomatch h

theorem environmentFields_eq_ok {names : List String} (h : IsReadable env names) :
    environmentFields env names = .ok (names.filterMap fun name => (environmentValue env name).map (name, ·)) := by
  induction names with
  | nil => rfl
  | cons name names ih =>
    obtain ⟨⟨value, hname⟩, hnames⟩ := List.forall_mem_cons.mp h
    rw [environmentFields, hname, ih hnames, List.filterMap_cons, environmentValue, hname]
    cases value <;> rfl

/-- One variable that should hold JSON and does not is enough for an error. -/
theorem environmentFields_eq_error {names : List String} (h : ¬ IsReadable env names) :
    environmentFields env names = .error .notJson := by
  induction names with
  | nil => exact absurd (List.forall_mem_nil _) h
  | cons name names ih =>
    rw [environmentFields]
    rcases hname : fromEnvironment env name with e | value
    · exact congrArg _ (eq_notJson_of_fromEnvironment hname)
    · rw [ih fun hnames => h (List.forall_mem_cons.mpr ⟨⟨value, hname⟩, hnames⟩)]
      rfl

theorem lookupLast_given (hname : name ∈ fieldNames) :
    Json.lookupLast name ((fieldNames.filterMap fun name => (environmentValue env name).map (name, ·)) ++
      argumentFields arguments) = given env arguments name := by
  rw [Json.lookupLast_append, argumentFields, Json.lookupLast_filterMap, Json.lookupLast_filterMap, if_pos hname,
    if_pos hname, given]

/-- **The settings that are loaded are those that hold what is given for their fields.** -/
theorem load_eq_ok_iff : load env arguments = .ok s ↔ IsReadable env fieldNames ∧ Holds (given env arguments) s := by
  by_cases hread : IsReadable env fieldNames
  · rw [and_iff_right hread, load, environmentFields_eq_ok hread]
    generalize hfs : (fieldNames.filterMap fun name => (environmentValue env name).map (name, ·)) = fs
    have hgiven : ∀ name ∈ fieldNames, Json.lookupLast name (fs ++ argumentFields arguments) = given env arguments name :=
      fun name hname => hfs ▸ lookupLast_given hname
    have hholds : ofFields (fs ++ argumentFields arguments) = .ok s ↔ Holds (given env arguments) s := by
      rw [ofFields_eq_ok_iff]
      exact ⟨fun h => h.congr fun name hname => (hgiven name hname).symm, fun h => h.congr hgiven⟩
    rw [← hholds]
    simp only [bind, Except.bind]
    cases ofFields (fs ++ argumentFields arguments) <;> simp [pure, Except.pure, throw, throwThe, MonadExceptOf.throw]
  · rw [load, environmentFields_eq_error hread]
    exact iff_of_false (fun h => nomatch h) fun h => hread h.1

theorem load_eq_error (h : ¬ IsReadable env fieldNames) : load env arguments = .error .notJson := by
  rw [load, environmentFields_eq_error h]
  rfl

/-! ## The origins -/

theorem argumentNamed_cons (arguments : List (String × Json)) (key name : String) (j : Json) :
    argumentNamed ((key, j) :: arguments) name =
      if lowerName key = name then some j else argumentNamed arguments name := by
  rw [argumentNamed, List.find?_cons]
  by_cases hkey : lowerName key = name
  · simp [hkey]
  · simp [hkey, argumentNamed]

theorem variableNamed_append (env : List (String × String)) (key name value : String) :
    variableNamed (env ++ [(key, value)]) name =
      if lowerName key = variableStart ++ name then some value else variableNamed env name := by
  rw [variableNamed, List.reverse_append, List.reverse_singleton, List.singleton_append, List.find?_cons]
  by_cases hkey : lowerName key = variableStart ++ name
  · simp [hkey]
  · simp [hkey, variableNamed]

theorem lowerName_originsArgument : lowerName "cors_origins" = "cors_origins" := by decide +kernel

theorem lowerName_originsVariable : lowerName "NSBROWSE_CORS_ORIGINS" = variableStart ++ "cors_origins" := by decide +kernel

theorem load_argument {j : Json} {os : List String} (h : load env arguments = .ok s) (hj : originsOf j = .ok os) :
    load env (("cors_origins", j) :: arguments) = .ok { s with corsOrigins := os } := by
  obtain ⟨hread, hholds⟩ := load_eq_ok_iff.mp h
  refine load_eq_ok_iff.mpr ⟨hread, hholds.withOrigins (fun name _ hname => ?_) ?_⟩
  · rw [given, argumentNamed_cons, lowerName_originsArgument, if_neg (Ne.symm hname), given]
  · rw [given, argumentNamed_cons, lowerName_originsArgument, if_pos rfl]
    exact hj

/-- The environment with one more variable, for the origins. -/
def withVariable (env : List (String × String)) (t : String) : List (String × String) :=
  env ++ [("NSBROWSE_CORS_ORIGINS", t)]

theorem fromEnvironment_withVariable_of_ne {t : String} (hmem : name ∈ fieldNames) (hname : name ≠ "cors_origins") :
    fromEnvironment (withVariable env t) name = fromEnvironment env name := by
  have hne : variableStart ++ "cors_origins" ≠ variableStart ++ name := by
    revert name
    decide +kernel
  rw [fromEnvironment, withVariable, variableNamed_append, lowerName_originsVariable, if_neg hne, ← fromEnvironment]

theorem fromEnvironment_withVariable (t : String) : fromEnvironment (withVariable env t) "cors_origins" =
    match Json.read .lenient t.toList with
    | none => .error .notJson
    | some .null => .ok none
    | some j => .ok (some j) := by
  rw [fromEnvironment, withVariable, variableNamed_append, lowerName_originsVariable, if_pos rfl]
  rfl

theorem load_variable_notJson {t : String} (hread : Json.read .lenient t.toList = none) :
    load (withVariable env t) arguments = .error .notJson := by
  refine load_eq_error fun h => ?_
  obtain ⟨value, hvalue⟩ := h "cors_origins" (by decide)
  rw [fromEnvironment_withVariable, hread] at hvalue
  exact nomatch hvalue

theorem load_variable {t : String} {given : Option Json} {os : List String} (h : load env arguments = .ok s)
    (hnone : argumentNamed arguments "cors_origins" = none)
    (hgiven : fromEnvironment (withVariable env t) "cors_origins" = .ok given)
    (htakes : Takes originsOf ({} : Settings).corsOrigins given os) :
    load (withVariable env t) arguments = .ok { s with corsOrigins := os } := by
  obtain ⟨hread, hholds⟩ := load_eq_ok_iff.mp h
  refine load_eq_ok_iff.mpr ⟨fun name hname => ?_, hholds.withOrigins (fun name hmem hname => ?_) ?_⟩
  · by_cases horigins : name = "cors_origins"
    · exact ⟨given, horigins ▸ hgiven⟩
    · rw [fromEnvironment_withVariable_of_ne hname horigins]
      exact hread name hname
  · rw [Settings.given, environmentValue, fromEnvironment_withVariable_of_ne hmem hname, Settings.given, environmentValue]
  · rw [Settings.given, hnone, environmentValue, hgiven]
    exact htakes

end Settings

end ClusterBrowser
