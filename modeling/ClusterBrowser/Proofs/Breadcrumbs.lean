import ClusterBrowser.Namespace.Serving
import ClusterBrowser.Proofs.Population
import ClusterBrowser.Proofs.Spelling
import ClusterBrowser.Proofs.Trace

/-!
# The way down to a path

Breadcrumbs are looked up along the texts that lead from the root down to a path.

* `parentText`: a text cut before its last separator.
* `LeadTo`: texts that lead down to a path, the last segment left out.
* `Path.leadTo_ancestors`: so do the ancestors of the path.
* `Crumb`, `Refusal`: what one look-up comes to.
* `Descent`: what comes of looking up texts one after another.
* `descent_mapM`: paths that are looked up one after another make a descent.
* **`breadcrumbs_descend`**: the breadcrumbs of a path are a descent along the texts that lead to it.
-/

namespace ClusterBrowser

variable {σ : Type}

/-! ## Ancestors and their texts -/

/-- What stands before the last separator of a text; if that is nothing, the root. -/
def parentText (text : String) : String :=
  let above := ((text.toList.reverse.dropWhile (· ≠ separator)).drop 1).reverse
  if above = [] then "/" else String.ofList above

/-- Texts that lead down to a text of some segments: one for each segment, from the root on, each of them what is left when
the next one is cut, and also what its segments make when they are joined. -/
structure LeadTo (text : String) (segments : List (List Char)) (texts : List String) : Prop where
  count : texts.length = segments.length
  root : ∀ top ∈ texts.head?, top = "/"
  cut : (texts ++ [text]).IsChain fun above below => parentText below = above
  joined : texts ++ [text] = (segments.map String.ofList).scanl joinText "/"

namespace Path

theorem trail_eq_nil_iff {p : Path} : p.trail = [] ↔ p = .root := by
  cases p <;> simp [trail]

theorem reverse_text_child (parent : Path) (name : Name) :
    (child parent name).text.toList.reverse = name.text.toList.reverse ++ separator :: parent.trail.reverse := by
  rw [text, String.toList_ofList]
  show (parent.trail ++ separator :: name.text.toList).reverse = _
  simp

theorem ne_separator_of_mem_reverse (name : Name) : ∀ c ∈ name.text.toList.reverse, decide (c ≠ separator) = true := by
  intro c hc
  rw [List.mem_reverse] at hc
  exact decide_eq_true fun heq => name.separator_not_mem (heq ▸ hc)

/-- **The parent of a path, from its text.** -/
theorem parentText_text (p : Path) : parentText p.text = p.parent.text := by
  cases p with
  | root => rfl
  | child parent name =>
    have habove : (((child parent name).text.toList.reverse.dropWhile (· ≠ separator)).drop 1).reverse =
        parent.trail := by
      rw [reverse_text_child, List.dropWhile_append_of_pos (ne_separator_of_mem_reverse name)]
      simp
    simp only [parentText, habove, trail_eq_nil_iff]
    cases parent <;> rfl

theorem length_ancestors (p : Path) : p.ancestors.length = p.segments.length := by
  induction p with
  | root => rfl
  | child parent name ih => simp [ancestors, segments_child, ih]

theorem foldl_joinText_segments (p : Path) : (p.segments.map String.ofList).foldl joinText "/" = p.text := by
  induction p with
  | root => rfl
  | child parent name ih =>
    rw [segments_child, List.map_append, List.foldl_append, ih, List.map_singleton, List.foldl_cons, List.foldl_nil,
      String.ofList_toList, joinText_text]

theorem scanl_joinText_segments (p : Path) :
    (p.segments.map String.ofList).scanl joinText "/" = p.lineage.map text := by
  induction p with
  | root => rfl
  | child parent name ih =>
    rw [segments_child, List.map_append, List.scanl_append, ih, foldl_joinText_segments, List.map_singleton,
      List.scanl_cons, List.scanl_nil, List.tail_cons, String.ofList_toList, joinText_text]
    exact (@List.map_append _ _ text parent.lineage [child parent name]).symm

/-- Along a path every text is what the next one is cut to. -/
theorem isChain_lineage (p : Path) : (p.lineage.map text).IsChain fun above below => parentText below = above := by
  rw [List.isChain_map]
  induction p with
  | root => exact .singleton _
  | child parent name ih =>
    refine ih.append (.singleton _) ?_
    intro above habove below hbelow
    obtain rfl : parent = above := by simpa [lineage] using habove
    obtain rfl : child parent name = below := by simpa using hbelow
    exact parentText_text _

/-- **The ancestors of a path lead down to it.** -/
theorem leadTo_ancestors (p : Path) : LeadTo p.text p.segments (p.ancestors.map text) := by
  have hlineage : p.ancestors.map text ++ [p.text] = p.lineage.map text := by rw [lineage, List.map_append]; rfl
  refine ⟨by rw [List.length_map, length_ancestors], ?_, hlineage ▸ p.isChain_lineage,
    hlineage.trans p.scanl_joinText_segments.symm⟩
  intro top htop
  have hhead : (p.ancestors.map text ++ [p.text]).head? = some "/" := by
    rw [hlineage, ← scanl_joinText_segments, List.head?_scanl]
  rw [List.head?_append, Option.mem_def.mp htop] at hhead
  exact Option.some.inj hhead

end Path

/-! ## One look-up -/

/-- A path that was looked up and can be shown. -/
structure Crumb where
  text : String
  info : FileInfo
  entry : Entry
  found : info.path ≠ ""
  shown : Entry.ofInfo info = .ok entry

/-- The look-up of the crumb. -/
def Crumb.call (crumb : Crumb) : ClusterCall := .status crumb.text (.ok crumb.info)

/-- An answer of which no crumb can be made, and the failure that it means. -/
inductive Refusal (text : String) : Except Failure FileInfo → Failure → Prop
  /-- The look-up failed. -/
  | failed (f : Failure) : Refusal text (.error f) f
  /-- Attributes without a path say that there is nothing. -/
  | nothing {info : FileInfo} (nowhere : info.path = "") : Refusal text (.ok info) (.browse (.pathNotFound text))
  /-- The attributes cannot be shown. -/
  | unshown {info : FileInfo} {e : DisplayError} (found : info.path ≠ "") (fails : Entry.ofInfo info = .error e) :
    Refusal text (.ok info) (.display e)

/-- What comes of looking up texts one after another, and the look-ups that were made: all of them, or those up to the
first that is refused. -/
inductive Descent : List String → Except Failure (List Entry) → List ClusterCall → Prop
  | whole (crumbs : List Crumb) :
    Descent (crumbs.map Crumb.text) (.ok (crumbs.map Crumb.entry)) (crumbs.map Crumb.call)
  | ended (crumbs : List Crumb) {text : String} {answer : Except Failure FileInfo} {f : Failure}
    (refused : Refusal text answer f) (rest : List String) :
    Descent (crumbs.map Crumb.text ++ text :: rest) (.error f) (crumbs.map Crumb.call ++ [.status text answer])

theorem Descent.cons (crumb : Crumb) {texts : List String} {out : Except Failure (List Entry)} {calls : List ClusterCall}
    (h : Descent texts out calls) :
    Descent (crumb.text :: texts) (out.map (crumb.entry :: ·)) (crumb.call :: calls) := by
  cases h with
  | whole crumbs => exact .whole (crumb :: crumbs)
  | ended crumbs refused rest => exact .ended (crumb :: crumbs) refused rest

theorem Descent.eq_of_nil {out : Except Failure (List Entry)} {calls : List ClusterCall} (h : Descent [] out calls) :
    out = .ok [] ∧ calls = [] := by
  generalize htexts : ([] : List String) = texts at h
  cases h with
  | whole crumbs =>
    obtain rfl := List.map_eq_nil_iff.mp htexts.symm
    exact ⟨rfl, rfl⟩
  | ended crumbs refused rest => simp at htexts

theorem exec_resolveEntry (c : Cluster σ) (p : Path) (s : σ) :
    (resolveEntry c p).exec s = Action.andThen ((c.status p.text).exec s) fun info =>
      if info.path = "" then Action.fail (.pathNotFound p.text)
      else Action.ofExcept .display (Entry.ofInfo info) := by
  rw [resolveEntry, resolve, Action.exec_bind, Action.exec_bind]
  rcases (c.status p.text).exec s with ⟨f | info, t⟩
  · rfl
  simp only [Action.andThen_ok]
  split_ifs <;> rfl

theorem exec_resolveEntry_traced (c : Cluster σ) (p : Path) (s : σ) (before : List ClusterCall) :
    (∃ (crumb : Crumb) (t : σ), crumb.text = p.text ∧ (resolveEntry c p).exec s = (.ok crumb.entry, t) ∧
      (resolveEntry c.traced p).exec (s, before) = (.ok crumb.entry, t, before ++ [crumb.call])) ∨
    ∃ answer f t, Refusal p.text answer f ∧ (resolveEntry c p).exec s = (.error f, t) ∧
      (resolveEntry c.traced p).exec (s, before) = (.error f, t, before ++ [.status p.text answer]) := by
  have hnoted : (c.traced.status p.text).exec (s, before) =
      (((c.status p.text).exec s).1, ((c.status p.text).exec s).2,
        before ++ [.status p.text ((c.status p.text).exec s).1]) := rfl
  rw [exec_resolveEntry, exec_resolveEntry, hnoted]
  rcases (c.status p.text).exec s with ⟨f | info, t⟩
  · exact .inr ⟨.error f, f, t, .failed f, rfl, rfl⟩
  simp only [Action.andThen_ok]
  by_cases hpath : info.path = ""
  · rw [if_pos hpath, if_pos hpath]
    exact .inr ⟨.ok info, _, t, .nothing hpath, rfl, rfl⟩
  rw [if_neg hpath, if_neg hpath]
  rcases hshown : Entry.ofInfo info with e | entry
  · exact .inr ⟨.ok info, _, t, .unshown hpath hshown, rfl, rfl⟩
  · exact .inl ⟨⟨p.text, info, entry, hpath, hshown⟩, t, rfl, rfl, rfl⟩

/-! ## Runs -/

/-- **Paths that are looked up one after another make a descent**, whether look-ups are noted or not. -/
theorem descent_mapM (c : Cluster σ) (ps : List Path) (s : σ) (before : List ClusterCall) :
    ∃ out t calls, (ps.mapM (resolveEntry c)).exec s = (out, t) ∧
      (ps.mapM (resolveEntry c.traced)).exec (s, before) = (out, t, before ++ calls) ∧
      Descent (ps.map Path.text) out calls := by
  -- What has been looked up above is noted in front.
  induction ps generalizing s before with
  | nil =>
    refine ⟨.ok [], s, [], rfl, ?_, .whole []⟩
    rw [List.append_nil]
    rfl
  | cons p ps ih =>
    rw [List.mapM_cons, List.mapM_cons, List.map_cons]
    rcases exec_resolveEntry_traced c p s before with
      ⟨crumb, t, htext, hplain, htraced⟩ | ⟨answer, f, t, hrefused, hplain, htraced⟩
    · obtain ⟨out, u, calls, hrest, hrest', hdescent⟩ := ih t (before ++ [crumb.call])
      refine ⟨_, u, _, ?_, ?_, htext ▸ hdescent.cons crumb⟩
      · rw [Action.exec_bind_of_ok hplain, Action.exec_bind, hrest]
        cases out <;> rfl
      · rw [Action.exec_bind_of_ok htraced, Action.exec_bind, hrest', List.append_assoc]
        cases out <;> rfl
    · exact ⟨_, t, _, Action.exec_bind_of_error hplain, Action.exec_bind_of_error htraced, .ended [] hrefused _⟩

/-- **Breadcrumbs lead down to a path.** For a path of some segments as many texts are looked up, from the root down to its
parent, in order and up to the first that is refused. Of the root nothing is looked up. -/
theorem breadcrumbs_descend {raw : String} {p : Path} (spelled : Path.parse raw = .ok p) (c : Cluster σ) (s : σ) :
    ∃ texts out t calls, LeadTo p.text (Text.segments raw) texts ∧ (breadcrumbs c p).exec s = (out, t) ∧
      (breadcrumbs c.traced p).exec (s, []) = (out, t, calls) ∧ Descent texts out calls ∧
      (Text.segments raw = [] → out = .ok [] ∧ calls = []) := by
  obtain ⟨out, t, calls, hplain, htraced, hdescent⟩ := descent_mapM c p.ancestors s []
  have hlead := p.leadTo_ancestors
  rw [Path.segments_of_parse spelled] at hlead
  refine ⟨p.ancestors.map Path.text, out, t, calls, hlead, hplain, htraced, hdescent, fun hsegments => ?_⟩
  have hnone : p.ancestors.map Path.text = [] := by
    rw [← List.length_eq_zero_iff, hlead.count, hsegments, List.length_nil]
  exact (hnone ▸ hdescent).eq_of_nil

/-- A descent in a namespace where a directory on the way is missing: what lies below it is not looked up. -/
theorem breadcrumbs_descend_missing : ∃ (ns : Namespace) (p : Path) (texts : List String) (out : Except Failure (List Entry))
    (t : Namespace) (calls : List ClusterCall), Path.parse "/d//e/f/g/" = .ok p ∧
    (Text.segments "/d//e/f/g/").length = 4 ∧ texts = ["/", "/d", "/d/e", "/d/e/f"] ∧ calls.length = 3 ∧
    out = .error (.browse (.pathNotFound "Path /d/e does not exist")) ∧
    LeadTo p.text (Text.segments "/d//e/f/g/") texts ∧
    (breadcrumbs (Namespace.cluster "" Namespace.defaultTiers) p).exec ns = (out, t) ∧
    (breadcrumbs (Namespace.cluster "" Namespace.defaultTiers).traced p).exec (ns, []) = (out, t, calls) ∧
    Descent texts out calls := by
  let ns := (PopulationCall.mkdir "/d" {}).perform (Namespace.ensureDirectory 0 {} .root { clock := ⟨some 0⟩ })
  let c := Namespace.cluster "" Namespace.defaultTiers
  let p : Path := .child (.child (.child (.child .root ⟨"d", by decide⟩) ⟨"e", by decide⟩) ⟨"f", by decide⟩) ⟨"g", by decide⟩
  have hp : Path.parse "/d//e/f/g/" = .ok p := by decide +kernel
  obtain ⟨texts, out, t, calls, hlead, hplain, htraced, hdescent, -⟩ := breadcrumbs_descend hp c ns
  have hjoined : texts ++ [p.text] = ["/", "/d", "/d/e", "/d/e/f"] ++ ["/d/e/f/g"] := by
    rw [hlead.joined]
    decide +kernel
  have hout : ((breadcrumbs c p).exec ns).1 = .error (.browse (.pathNotFound "Path /d/e does not exist")) := by
    decide +kernel
  have hcalls : ((breadcrumbs c.traced p).exec (ns, [])).2.2.length = 3 := by decide +kernel
  rw [hplain] at hout
  rw [htraced] at hcalls
  exact ⟨ns, p, texts, out, t, calls, hp, by decide +kernel, (List.append_inj' hjoined rfl).1, hcalls, hout, hlead, hplain,
    htraced, hdescent⟩

end ClusterBrowser
