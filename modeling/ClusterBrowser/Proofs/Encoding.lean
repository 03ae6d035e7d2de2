import ClusterBrowser.Master.Client
import ClusterBrowser.Proofs.JsonReading
import ClusterBrowser.Proofs.JsonWriting
import ClusterBrowser.Proofs.Utf8
import Mathlib.Data.List.Forall2

/-!
# Decoding what was encoded

A report may be written with its fields in any order, without those that have their default, and with others among them.

* `Json.IsRecord`, `Json.IsListOf`: the values that stand for a record, or for a list.
* `NodeAddress.fieldForms`, …, `FileInfo.fieldForms`: the fields of each kind of report, and when they may be left out.
* `NodeAddress.ofJson_eq`, …, `FileInfo.ofJson_eq`: what stands for a report is taken for it.
* `Reply.Decodes`: bodies of replies are decoded as what their texts stand for.
* **`Reply.decodes_reports`**: listings, block reports and names of tiers are.
* `Reply.decode_fails_for_deep_field`: a field that is not known makes a body no JSON by being nested too deep.
-/

namespace ClusterBrowser

namespace Json

/-! ## Records -/

/-- A field of a record. -/
structure FieldForm where
  name : String
  /-- The values that stand for what is in the field. -/
  stands : Json → Prop
  /-- What is in the field is its default, so that it may be left out. -/
  hasDefault : Prop

/-- The fields of a record, without some of those that have their default. -/
inductive WritesFields : List FieldForm → List (String × Json) → Prop
  | nil : WritesFields [] []
  | present {form : FieldForm} {forms : List FieldForm} {j : Json} {fields : List (String × Json)} (stands : form.stands j)
    (others : WritesFields forms fields) : WritesFields (form :: forms) ((form.name, j) :: fields)
  | leftOut {form : FieldForm} {forms : List FieldForm} {fields : List (String × Json)} (hasDefault : form.hasDefault)
    (others : WritesFields forms fields) : WritesFields (form :: forms) fields

/-- An object of the fields of a record, in any order and with others among them that are not known. -/
def IsRecord (forms : List FieldForm) (j : Json) : Prop :=
  ∃ fields written others, j = .obj fields ∧ WritesFields forms written ∧
    (∀ field ∈ others, field.1 ∉ forms.map FieldForm.name) ∧ fields.Perm (written ++ others)

/-- An array of what stands for the items of a list. -/
def IsListOf {α : Type} (stands : α → Json → Prop) (xs : List α) (j : Json) : Prop :=
  ∃ items, j = .arr items ∧ List.Forall₂ stands xs items

theorem lookupLast_eq_none {key : String} {fields : List (String × Json)} (h : ∀ j, (key, j) ∉ fields) :
    lookupLast key fields = none := by
  induction fields with
  | nil => rfl
  | cons field fields ih =>
    obtain ⟨name, j⟩ := field
    have hname : name ≠ key := by
      rintro rfl
      exact h j List.mem_cons_self
    rw [lookupLast, ih fun j hj => h j (List.mem_cons_of_mem _ hj)]
    exact if_neg hname

theorem lookupLast_eq_some {key : String} {j : Json} {fields : List (String × Json)} (hmem : (key, j) ∈ fields)
    (honly : ∀ j', (key, j') ∈ fields → j' = j) : lookupLast key fields = some j := by
  induction fields with
  | nil => exact nomatch hmem
  | cons field fields ih =>
    obtain ⟨name, j'⟩ := field
    by_cases hrest : ∃ j'', (key, j'') ∈ fields
    · obtain ⟨j'', hj''⟩ := hrest
      obtain rfl := honly j'' (List.mem_cons_of_mem _ hj'')
      rw [lookupLast, ih hj'' fun k hk => honly k (List.mem_cons_of_mem _ hk)]
    · rw [not_exists] at hrest
      obtain ⟨rfl, rfl⟩ : key = name ∧ j = j' := by
        rcases List.mem_cons.mp hmem with heq | hmem
        · exact Prod.mk.inj heq
        · exact absurd hmem (hrest j)
      rw [lookupLast, lookupLast_eq_none hrest]
      exact if_pos rfl

/-- The field is there with what stands for its contents, or it is not there and has its default. -/
def FieldForm.IsFoundIn (form : FieldForm) (fields : List (String × Json)) : Prop :=
  (∃ j, lookupLast form.name fields = some j ∧ form.stands j) ∨
    (lookupLast form.name fields = none ∧ form.hasDefault)

theorem WritesFields.name_mem {forms : List FieldForm} {written : List (String × Json)} (h : WritesFields forms written) :
    ∀ field ∈ written, field.1 ∈ forms.map FieldForm.name := by
  induction h with
  | nil => exact fun _ h => nomatch h
  | present stands others ih =>
    intro field hfield
    rcases List.mem_cons.mp hfield with rfl | hfield
    · exact List.mem_cons_self
    · exact List.mem_cons_of_mem _ (ih field hfield)
  | leftOut hasDefault others ih => exact fun field hfield => List.mem_cons_of_mem _ (ih field hfield)

theorem WritesFields.field {forms : List FieldForm} {written : List (String × Json)} (h : WritesFields forms written)
    (hnames : (forms.map FieldForm.name).Nodup) : ∀ form ∈ forms,
      (∃ j, form.stands j ∧ (form.name, j) ∈ written ∧ ∀ j', (form.name, j') ∈ written → j' = j) ∨
        (form.hasDefault ∧ ∀ j, (form.name, j) ∉ written) := by
  induction h with
  | nil => exact fun _ h => nomatch h
  | @present first forms j fields stands others ih =>
    rw [List.map_cons, List.nodup_cons] at hnames
    have habsent : ∀ j, (first.name, j) ∉ fields := fun j hj => hnames.1 (others.name_mem _ hj)
    intro form hform
    rcases List.mem_cons.mp hform with rfl | hform
    · refine .inl ⟨j, stands, List.mem_cons_self, fun j' hj' => ?_⟩
      rcases List.mem_cons.mp hj' with heq | hj'
      · exact (Prod.mk.inj heq).2
      · exact absurd hj' (habsent j')
    · have hname : form.name ≠ first.name := fun heq => hnames.1 (heq ▸ List.mem_map_of_mem hform)
      have hmem : ∀ k, (form.name, k) ∈ (first.name, j) :: fields ↔ (form.name, k) ∈ fields := fun k => by
        rw [List.mem_cons, Prod.mk.injEq]
        exact or_iff_right fun h => hname h.1
      simp only [hmem]
      exact ih hnames.2 form hform
  | @leftOut first forms fields hasDefault others ih =>
    rw [List.map_cons, List.nodup_cons] at hnames
    intro form hform
    rcases List.mem_cons.mp hform with rfl | hform
    · exact .inr ⟨hasDefault, fun j hj => hnames.1 (others.name_mem _ hj)⟩
    · exact ih hnames.2 form hform

/-- **Every field of a record is found in an object that stands for it.** -/
theorem IsRecord.isFound {forms : List FieldForm} {j : Json} (h : IsRecord forms j)
    (hnames : (forms.map FieldForm.name).Nodup) :
    ∃ fields, j = .obj fields ∧ ∀ form ∈ forms, form.IsFoundIn fields := by
  obtain ⟨fields, written, others, rfl, hwrites, hothers, hperm⟩ := h
  refine ⟨fields, rfl, fun form hform => ?_⟩
  -- The other fields have other names, so that none of them is taken for this one.
  have hmem : ∀ j, (form.name, j) ∈ fields ↔ (form.name, j) ∈ written := fun j => by
    rw [hperm.mem_iff, List.mem_append]
    exact or_iff_left fun hother => hothers _ hother (List.mem_map_of_mem hform)
  rcases hwrites.field hnames form hform with ⟨j, hj, hwritten, honly⟩ | ⟨hdefault, habsent⟩
  · exact .inl ⟨j, lookupLast_eq_some ((hmem j).mpr hwritten) fun j' hj' => honly j' ((hmem j').mp hj'), hj⟩
  · exact .inr ⟨lookupLast_eq_none fun j hj => habsent j ((hmem j).mp hj), hdefault⟩

theorem WritesFields.of_defaults {forms : List FieldForm} (h : ∀ form ∈ forms, form.hasDefault) :
    WritesFields forms [] := by
  induction forms with
  | nil => exact .nil
  | cons form forms ih =>
    exact .leftOut (h form List.mem_cons_self) (ih fun form hform => h form (List.mem_cons_of_mem _ hform))

/-! ## Fields that are taken -/

section fields

variable {α : Type} {fields : List (String × Json)} {name : String} {stands : Json → Prop} {value : Json → Checked α} {a : α}

theorem required_eq (h : FieldForm.IsFoundIn ⟨name, stands, False⟩ fields) (hvalue : ∀ j, stands j → value j = .ok a) :
    required fields name value = .ok a := by
  rcases h with ⟨j, hfound, hj⟩ | ⟨-, hdefault⟩
  · rw [required, hfound]
    dsimp only
    rw [hvalue j hj]
    rfl
  · exact hdefault.elim

theorem optional_eq {default : α} (h : FieldForm.IsFoundIn ⟨name, stands, a = default⟩ fields)
    (hvalue : ∀ j, stands j → value j = .ok a) : optional fields name value default = .ok a := by
  rcases h with ⟨j, hfound, hj⟩ | ⟨hmissing, hdefault⟩
  · rw [optional, hfound]
    dsimp only
    rw [hvalue j hj]
    rfl
  · rw [optional, hmissing, hdefault]

end fields

theorem asInt_eq {n : Int} (j : Json) (h : j = .int n) : asInt j = .ok n := h ▸ rfl

theorem asBool_eq {b : Bool} (j : Json) (h : j = .bool b) : asBool j = .ok b := h ▸ rfl

theorem asText_eq {s : String} (j : Json) (h : j = .str s) : asText j = .ok s := h ▸ rfl

theorem asList_eq {α : Type} {stands : α → Json → Prop} {item : Json → Checked α}
    (hitem : ∀ a j, stands a j → item j = .ok a) {xs : List α} (j : Json) (h : IsListOf stands xs j) :
    asList item j = .ok xs := by
  have hitems : ∀ {xs items}, List.Forall₂ stands xs items → ∀ i, asItems item i items = .ok xs := by
    intro xs items h
    induction h with
    | nil => exact fun _ => rfl
    | cons hfirst _ ih =>
      intro i
      rw [asItems, hitem _ _ hfirst, ih (i + 1)]
      rfl
  obtain ⟨items, rfl, hforall⟩ := h
  exact hitems hforall 0

end Json

/-! ## Reports -/

open Json

def NodeAddress.fieldForms (a : NodeAddress) : List FieldForm :=
  [⟨"host", (· = .str a.host), False⟩, ⟨"rpc_port", (· = .int a.rpcPort), a.rpcPort = 0⟩,
    ⟨"data_port", (· = .int a.dataPort), a.dataPort = 0⟩, ⟨"web_port", (· = .int a.webPort), a.webPort = 0⟩]

def Replica.fieldForms (r : Replica) : List FieldForm :=
  [⟨"worker_id", (· = .int r.workerId), r.workerId = 0⟩, ⟨"worker_address", IsRecord r.address.fieldForms, False⟩,
    ⟨"tier_alias", (· = .str r.tier), r.tier = "MEM"⟩]

def Block.fieldForms (b : Block) : List FieldForm :=
  [⟨"block_id", (· = .int b.id), False⟩, ⟨"length", (· = .int b.length), b.length = 0⟩,
    ⟨"locations", IsListOf (fun r : Replica => IsRecord r.fieldForms) b.replicas, b.replicas = []⟩]

def BlockReport.fieldForms (r : BlockReport) : List FieldForm :=
  [⟨"block_info", IsRecord r.block.fieldForms, False⟩, ⟨"offset", (· = .int r.offset), r.offset = 0⟩,
    ⟨"ufs_locations", IsListOf (fun a : NodeAddress => IsRecord a.fieldForms) r.backing, r.backing = []⟩]

def FileInfo.fieldForms (i : FileInfo) : List FieldForm :=
  [⟨"file_id", (· = .int i.id), False⟩, ⟨"name", (· = .str i.name), False⟩, ⟨"path", (· = .str i.path), False⟩,
    ⟨"length", (· = .int i.length), i.length = 0⟩, ⟨"block_size_bytes", (· = .int i.blockSize), i.blockSize = 0⟩,
    ⟨"creation_time_ms", (· = .int i.createdMs), i.createdMs = 0⟩,
    ⟨"last_modification_time_ms", (· = .int i.modifiedMs), i.modifiedMs = 0⟩,
    ⟨"completed", (· = .bool i.completed), i.completed = true⟩, ⟨"folder", (· = .bool i.folder), i.folder = false⟩,
    ⟨"pinned", (· = .bool i.pinned), i.pinned = false⟩,
    ⟨"in_memory_percentage", (· = .int i.inMemoryPercent), i.inMemoryPercent = 0⟩, ⟨"owner", (· = .str i.owner), i.owner = ""⟩,
    ⟨"group", (· = .str i.group), i.group = ""⟩, ⟨"permission", (· = .int i.permission), i.permission = 420⟩,
    ⟨"block_ids", IsListOf (fun (n : Int) j => j = .int n) i.blockIds, i.blockIds = []⟩]

theorem NodeAddress.ofJson_eq (a : NodeAddress) (j : Json) (h : IsRecord a.fieldForms j) : ofJson j = .ok a := by
  obtain ⟨fields, rfl, hfound⟩ := h.isFound (by simp [fieldForms])
  simp only [fieldForms, List.forall_mem_cons] at hfound
  obtain ⟨hhost, hrpc, hdata, hweb, -⟩ := hfound
  rw [ofJson, asObject, required_eq hhost asText_eq, optional_eq hrpc asInt_eq, optional_eq hdata asInt_eq,
    optional_eq hweb asInt_eq]
  rfl

theorem Replica.ofJson_eq (r : Replica) (j : Json) (h : IsRecord r.fieldForms j) : ofJson j = .ok r := by
  obtain ⟨fields, rfl, hfound⟩ := h.isFound (by simp [fieldForms])
  simp only [fieldForms, List.forall_mem_cons] at hfound
  obtain ⟨hid, haddress, htier, -⟩ := hfound
  rw [ofJson, asObject, optional_eq hid asInt_eq, required_eq haddress r.address.ofJson_eq, optional_eq htier asText_eq]
  rfl

theorem Block.ofJson_eq (b : Block) (j : Json) (h : IsRecord b.fieldForms j) : ofJson j = .ok b := by
  obtain ⟨fields, rfl, hfound⟩ := h.isFound (by simp [fieldForms])
  simp only [fieldForms, List.forall_mem_cons] at hfound
  obtain ⟨hid, hlength, hlocations, -⟩ := hfound
  rw [ofJson, asObject, required_eq hid asInt_eq, optional_eq hlength asInt_eq,
    optional_eq hlocations (asList_eq Replica.ofJson_eq)]
  rfl

theorem BlockReport.ofJson_eq (r : BlockReport) (j : Json) (h : IsRecord r.fieldForms j) : ofJson j = .ok r := by
  obtain ⟨fields, rfl, hfound⟩ := h.isFound (by simp [fieldForms])
  simp only [fieldForms, List.forall_mem_cons] at hfound
  obtain ⟨hblock, hoffset, hbacking, -⟩ := hfound
  rw [ofJson, asObject, required_eq hblock r.block.ofJson_eq, optional_eq hoffset asInt_eq,
    optional_eq hbacking (asList_eq NodeAddress.ofJson_eq)]
  rfl

theorem FileInfo.ofJson_eq (i : FileInfo) (j : Json) (h : IsRecord i.fieldForms j) : ofJson j = .ok i := by
  obtain ⟨fields, rfl, hfound⟩ := h.isFound (by simp [fieldForms])
  simp only [fieldForms, List.forall_mem_cons] at hfound
  obtain ⟨hid, hname, hpath, hlength, hsize, hcreated, hmodified, hcompleted, hfolder, hpinned, hpercent, howner, hgroup,
    hpermission, hblocks, -⟩ := hfound
  rw [ofJson, asObject, required_eq hid asInt_eq, required_eq hname asText_eq, required_eq hpath asText_eq,
    optional_eq hlength asInt_eq, optional_eq hsize asInt_eq, optional_eq hcreated asInt_eq,
    optional_eq hmodified asInt_eq, optional_eq hcompleted asBool_eq, optional_eq hfolder asBool_eq,
    optional_eq hpinned asBool_eq, optional_eq hpercent asInt_eq, optional_eq howner asText_eq,
    optional_eq hgroup asText_eq, optional_eq hpermission asInt_eq, optional_eq hblocks (asList_eq fun _ => asInt_eq)]
  rfl

/-! ## What is written in full -/

namespace Json

theorem isRecord_of_present {forms : List FieldForm} {fields : List (String × Json)}
    (h : List.Forall₂ (fun form field => field.1 = form.name ∧ form.stands field.2) forms fields) :
    IsRecord forms (.obj fields) := by
  have hwrites : WritesFields forms fields := by
    induction h with
    | nil => exact .nil
    | @cons form field _ _ hfield _ ih =>
      obtain ⟨name, j⟩ := field
      obtain ⟨rfl, stands⟩ := hfield
      exact .present stands ih
  exact ⟨fields, fields, [], rfl, hwrites, fun _ h => (nomatch h), .of_eq (List.append_nil _).symm⟩

theorem isListOf_map {α : Type} {stands : α → Json → Prop} {toJson : α → Json} (h : ∀ a, stands a (toJson a))
    (xs : List α) : IsListOf stands xs (.arr (xs.map toJson)) :=
  ⟨xs.map toJson, rfl, List.forall₂_map_right_iff.mpr (List.forall₂_same.mpr fun a _ => h a)⟩

theorem depthOfItems_map_le {α : Type} {toJson : α → Json} {n : Nat} (h : ∀ a, (toJson a).depth ≤ n) (xs : List α) :
    (Json.arr (xs.map toJson)).depth ≤ n + 1 := by
  rw [depth]
  induction xs with
  | nil => exact Nat.zero_le _
  | cons a xs ih =>
    have hfirst := h a
    rw [List.map_cons, depthOfItems]
    omega

end Json

theorem NodeAddress.isRecord_toJson (a : NodeAddress) : IsRecord a.fieldForms a.toJson :=
  isRecord_of_present (by simp [fieldForms])

theorem Replica.isRecord_toJson (r : Replica) : IsRecord r.fieldForms r.toJson :=
  isRecord_of_present (by simp [fieldForms, r.address.isRecord_toJson])

theorem Block.isRecord_toJson (b : Block) : IsRecord b.fieldForms b.toJson :=
  isRecord_of_present (by simp [fieldForms, isListOf_map Replica.isRecord_toJson])

theorem BlockReport.isRecord_toJson (r : BlockReport) : IsRecord r.fieldForms r.toJson :=
  isRecord_of_present (by simp [fieldForms, r.block.isRecord_toJson, isListOf_map NodeAddress.isRecord_toJson])

theorem FileInfo.isRecord_toJson (i : FileInfo) : IsRecord i.fieldForms i.toJson :=
  isRecord_of_present (by
    simp [fieldForms, @isListOf_map Int (fun n j => j = .int n) .int (fun _ => rfl) i.blockIds])

/-- The three fields that must be there stand for a report in which all else has its default. -/
theorem FileInfo.isRecord_of_perm {id : Int} {name path : String} {fields others : List (String × Json)}
    (hothers : ∀ field ∈ others, field.1 ∉ (FileInfo.fieldForms { id, name, path }).map FieldForm.name)
    (hperm : fields.Perm ([("file_id", .int id), ("name", .str name), ("path", .str path)] ++ others)) :
    IsRecord (FileInfo.fieldForms { id, name, path }) (.obj fields) := by
  refine ⟨fields, _, others, rfl, ?_, hothers, hperm⟩
  exact .present rfl (.present rfl (.present rfl (.of_defaults (by simp))))

theorem NodeAddress.depth_toJson (a : NodeAddress) : a.toJson.depth ≤ 1 := by
  simp [toJson, depth, depthOfFields]

theorem Replica.depth_toJson (r : Replica) : r.toJson.depth ≤ 2 := by
  have haddress := r.address.depth_toJson
  simp only [toJson, depth, depthOfFields]
  omega

theorem Block.depth_toJson (b : Block) : b.toJson.depth ≤ 4 := by
  have hlocations := depthOfItems_map_le Replica.depth_toJson b.replicas
  rw [depth] at hlocations
  simp only [toJson, depth, depthOfFields]
  omega

theorem BlockReport.depth_toJson (r : BlockReport) : r.toJson.depth ≤ 5 := by
  have hblock := r.block.depth_toJson
  have hbacking := depthOfItems_map_le NodeAddress.depth_toJson r.backing
  rw [depth] at hbacking
  simp only [toJson, depth, depthOfFields]
  omega

theorem FileInfo.depth_toJson (i : FileInfo) : i.toJson.depth ≤ 2 := by
  have hblocks := @depthOfItems_map_le Int .int 0 (fun _ => Nat.zero_le _) i.blockIds
  rw [depth] at hblocks
  simp only [toJson, depth, depthOfFields]
  omega

/-! ## Bodies of replies -/

namespace Reply

/-- What the texts of data are decoded as: the text in which all is written as these data, and every text of every value that
stands for them too, unless the value is nested too deep. -/
structure Decodes {α : Type} (toJson : α → Json) (ofJson : Json → Checked α) (stands : α → Json → Prop) : Prop where
  written : ∀ (status : Nat) (a : α), (toJson a).isPlain = true →
    ({ status, body := Utf8.encode (toJson a).write } : Reply).decode ofJson = .ok a
  spelled : ∀ (status : Nat) (a : α) (j : Json) (t : List Char), stands a j → Spells t j →
    ({ status, body := Utf8.encode t } : Reply).decode ofJson = if j.depth ≤ 200 then .ok a else .wrong [[]]

variable {α : Type} {toJson : α → Json} {ofJson : Json → Checked α} {stands : α → Json → Prop}

theorem decode_spelled (hstands : ∀ a j, stands a j → ofJson j = .ok a) (status : Nat) {a : α} {j : Json}
    (ha : stands a j) {t : List Char} (h : Spells t j) :
    ({ status, body := Utf8.encode t } : Reply).decode ofJson = if j.depth ≤ 200 then .ok a else .wrong [[]] := by
  rw [Reply.decode, Utf8.decode?_encode]
  dsimp only
  rw [Json.decode, read_eq h]
  split_ifs
  · exact hstands a j ha
  · rfl

theorem Decodes.of_stands (hstands : ∀ a j, stands a j → ofJson j = .ok a) (hwritten : ∀ a, stands a (toJson a))
    (hdepth : ∀ a, (toJson a).depth ≤ 200) : Decodes toJson ofJson stands where
  written status a hplain := by
    rw [decode_spelled hstands status (hwritten a) (spells_write hplain), if_pos (hdepth a)]
  spelled status _ _ _ ha h := decode_spelled hstands status ha h

theorem Decodes.list {n : Nat} (hstands : ∀ a j, stands a j → ofJson j = .ok a) (hwritten : ∀ a, stands a (toJson a))
    (hdepth : ∀ a, (toJson a).depth ≤ n) (hn : n < 200) :
    Decodes (fun xs => .arr (xs.map toJson)) (asList ofJson) (IsListOf stands) :=
  .of_stands (fun _ j h => asList_eq hstands j h) (isListOf_map hwritten) fun xs =>
    (depthOfItems_map_le hdepth xs).trans hn

/-- **Listings, block reports and names of tiers are decoded as what their texts stand for.** -/
theorem decodes_reports :
    Decodes (fun infos => .arr (infos.map FileInfo.toJson)) (asList FileInfo.ofJson)
      (IsListOf fun info => IsRecord info.fieldForms) ∧
    Decodes (fun reports => .arr (reports.map BlockReport.toJson)) (asList BlockReport.ofJson)
      (IsListOf fun report => IsRecord report.fieldForms) ∧
    Decodes Json.strings (asList asText) (IsListOf fun name j => j = .str name) :=
  ⟨.list FileInfo.ofJson_eq FileInfo.isRecord_toJson FileInfo.depth_toJson (by decide),
    .list BlockReport.ofJson_eq BlockReport.isRecord_toJson BlockReport.depth_toJson (by decide),
    .list (fun _ => asText_eq) (fun _ => rfl) (fun _ => Nat.zero_le 0) (by decide)⟩

/-- A report with its fields in another order, most of them left out, and one that is not known. -/
def strayListing : Json :=
  .arr [.obj [("path", .str "/f"), ("file_id", .int 1), ("name", .str "f"), ("x", .arr [.null])]]

theorem decodes_reports_stray :
    IsListOf (fun info : FileInfo => IsRecord info.fieldForms) [{ id := 1, name := "f", path := "/f" }] strayListing ∧
    Spells strayListing.write strayListing ∧
    ({ body := Utf8.encode strayListing.write } : Reply).decode (asList FileInfo.ofJson) =
      .ok [{ id := 1, name := "f", path := "/f" }] := by
  have hrecord : IsRecord (FileInfo.fieldForms { id := 1, name := "f", path := "/f" })
      (.obj [("path", .str "/f"), ("file_id", .int 1), ("name", .str "f"), ("x", .arr [.null])]) :=
    @FileInfo.isRecord_of_perm _ _ _ _ [("x", .arr [.null])] (by simp [FileInfo.fieldForms])
      (@List.perm_middle (String × Json) ("path", .str "/f") [("file_id", .int 1), ("name", .str "f")] _).symm
  have hstands : IsListOf (fun info : FileInfo => IsRecord info.fieldForms) [{ id := 1, name := "f", path := "/f" }]
      strayListing := ⟨_, rfl, .cons hrecord .nil⟩
  have hspells : Spells strayListing.write strayListing := spells_write (by decide +kernel)
  have hdecode := decodes_reports.1.spelled 200 _ _ _ hstands hspells
  rw [if_pos (by decide +kernel)] at hdecode
  exact ⟨hstands, hspells, hdecode⟩

/-- Arrays inside each other. -/
def nest : Nat → Json
  | 0 => .arr []
  | n + 1 => .arr [nest n]

theorem isPlain_nest (n : Nat) : (nest n).isPlain = true := by
  induction n with
  | zero => rfl
  | succ n ih => rw [nest, isPlain, arePlainItems, ih, arePlainItems, Bool.and_self]

theorem depth_nest (n : Nat) : (nest n).depth = n := by
  induction n with
  | zero => rfl
  | succ n ih => rw [nest, depth, depthOfItems, depthOfItems, ih, Nat.max_zero]

/-- A report with a field that is not known, of arrays inside each other. -/
def deepListing (n : Nat) : Json :=
  .arr [.obj [("file_id", .int 1), ("name", .str "f"), ("path", .str "/f"), ("x", nest n)]]

/-- A field that is not known can make a body no JSON, by being nested too deep. -/
theorem decode_fails_for_deep_field :
    IsListOf (fun info : FileInfo => IsRecord info.fieldForms) [{ id := 1, name := "f", path := "/f" }] (deepListing 250) ∧
    Spells (deepListing 250).write (deepListing 250) ∧
    ({ body := Utf8.encode (deepListing 250).write } : Reply).decode (asList FileInfo.ofJson) = .wrong [[]] := by
  have hrecord : IsRecord (FileInfo.fieldForms { id := 1, name := "f", path := "/f" })
      (.obj [("file_id", .int 1), ("name", .str "f"), ("path", .str "/f"), ("x", nest 250)]) :=
    @FileInfo.isRecord_of_perm _ _ _ _ [("x", nest 250)] (by simp [FileInfo.fieldForms]) (.refl _)
  have hstands : IsListOf (fun info : FileInfo => IsRecord info.fieldForms) [{ id := 1, name := "f", path := "/f" }]
      (deepListing 250) := ⟨_, rfl, .cons hrecord .nil⟩
  have hspells : Spells (deepListing 250).write (deepListing 250) := by
    refine spells_write ?_
    simp only [deepListing, isPlain, arePlainItems, arePlainFields, isPlain_nest]
    decide +kernel
  have hdeep : ¬ (deepListing 250).depth ≤ 200 := by
    simp only [deepListing, depth, depthOfItems, depthOfFields, depth_nest]
    decide
  refine ⟨hstands, hspells, ?_⟩
  rw [decode_spelled (fun _ j h => asList_eq FileInfo.ofJson_eq j h) 200 hstands hspells, if_neg hdeep]

end Reply

end ClusterBrowser
