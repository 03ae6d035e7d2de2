import ClusterBrowser.Json.Writer
import ClusterBrowser.Proofs.JsonGrammar

/-!
# What is written spells what it is written of

* `Json.isPlain`: no double is in a value, and no integer that is too long.
* `Json.spellsNumber_write`, `Json.spellsChars_write`: the texts of integers and strings.
* `Json.value_write`: the text of a value, whatever follows.
* **`Json.spells_write`**: a plain value is written as the grammar has it.
-/

namespace ClusterBrowser

namespace Json

/-! ## Integers -/

theorem isWholePart_writeNat {n : Nat} (h : (Decimal.writeNat n).length ≤ Decimal.maxDigits) :
    IsWholePart (Decimal.writeNat n) := ⟨Decimal.isNumeral_writeNat h, Decimal.writeNat_head n⟩

theorem spellsNumber_write {n : Int} (h : (Decimal.writeNat n.natAbs).length ≤ Decimal.maxDigits) :
    SpellsNumber (Decimal.write n) (.int n) := by
  cases n with
  | ofNat n =>
    have hspells := SpellsNumber.integer false (isWholePart_writeNat h)
    rwa [Decimal.digitsValue_writeNat] at hspells
  | negSucc n =>
    have hspells := SpellsNumber.integer true (isWholePart_writeNat h)
    rwa [Decimal.digitsValue_writeNat] at hspells

/-! ## Strings -/

theorem unit?_digits : ∀ n < 0x20,
    Hex.digits 4 n = ['0', '0', Nat.digitChar (n / 16), Nat.digitChar (n % 16)] ∧
      Hex.unit? '0' '0' (Nat.digitChar (n / 16)) (Nat.digitChar (n % 16)) = some n := by
  decide +kernel

theorem spellsChars_write (cs rest : List Char) : SpellsChars (cs.flatMap writeChar ++ '"' :: rest) cs rest := by
  induction cs with
  | nil => exact .close rest
  | cons c cs ih =>
    rw [List.flatMap_cons, writeChar, List.append_assoc]
    split_ifs with hmark hbackslash hcontrol
    · subst hmark
      exact .escape (by decide) ih
    · subst hbackslash
      exact .escape (by decide) ih
    · obtain ⟨hdigits, hunit⟩ := unit?_digits c.toNat hcontrol
      rw [hdigits]
      exact .unit hunit ih
    · exact .plain (Nat.not_lt.mp hcontrol) hmark hbackslash ih

theorem spellsChars_writeString (s : String) (rest : List Char) :
    ∃ t, writeString s ++ rest = '"' :: t ∧ SpellsChars t s.toList rest :=
  ⟨s.toList.flatMap writeChar ++ '"' :: rest, by simp [writeString], spellsChars_write s.toList rest⟩

/-! ## Values -/

mutual

/-- No double is in the value, and no integer that is too long. -/
def isPlain : Json → Bool
  | int n => (Decimal.writeNat n.natAbs).length ≤ Decimal.maxDigits
  | float _ => false
  | arr items => arePlainItems items
  | obj fields => arePlainFields fields
  | _ => true

@[inherit_doc isPlain]
def arePlainItems : List Json → Bool
  | [] => true
  | item :: rest => isPlain item && arePlainItems rest

@[inherit_doc isPlain]
def arePlainFields : List (String × Json) → Bool
  | [] => true
  | (_, value) :: rest => isPlain value && arePlainFields rest

end

theorem isGap_nil : IsGap [] := fun _ h => nomatch h

mutual

/-- The text of a value spells it, whatever follows. -/
theorem value_write : ∀ j : Json, j.isPlain = true → ∀ rest, Value (j.write ++ rest) j rest
  | .null, _, rest => .word isGap_nil .null rest
  | .bool true, _, rest => .word isGap_nil .yes rest
  | .bool false, _, rest => .word isGap_nil .no rest
  | .int _, h, rest => .number isGap_nil (spellsNumber_write (of_decide_eq_true h)) rest
  | .str s, _, rest => by
    obtain ⟨t, htext, hchars⟩ := spellsChars_writeString s rest
    rw [write, htext]
    exact .string isGap_nil hchars
  | .arr items, h, rest => by
    have hitems := items_write items h rest
    rcases items with _ | ⟨item, items⟩
    · exact .emptyArray isGap_nil isGap_nil rest
    · exact .array isGap_nil (hitems (List.cons_ne_nil _ _))
  | .obj fields, h, rest => by
    have hfields := fields_write fields h rest
    rcases fields with _ | ⟨field, fields⟩
    · exact .emptyObject isGap_nil isGap_nil rest
    · exact .object isGap_nil (hfields (List.cons_ne_nil _ _))

theorem items_write : ∀ items : List Json, arePlainItems items = true → ∀ rest, items ≠ [] →
    Items (writeItems items ++ rest) items rest
  | [], _, _, h => absurd rfl h
  | item :: items, h, rest, _ => by
    rw [arePlainItems, Bool.and_eq_true] at h
    have hitem := value_write item h.1
    have hitems := items_write items h.2 rest
    rcases items with _ | ⟨next, items⟩
    · rw [writeItems, List.append_assoc]
      exact .last (hitem ([] ++ ']' :: rest)) isGap_nil
    · rw [writeItems, List.append_assoc]
      · exact .more (hitem ([] ++ ',' :: (writeItems (next :: items) ++ rest))) isGap_nil (hitems (List.cons_ne_nil _ _))
      · exact List.cons_ne_nil _ _

theorem fields_write : ∀ fields : List (String × Json), arePlainFields fields = true → ∀ rest, fields ≠ [] →
    Fields (writeFields fields ++ rest) fields rest
  | [], _, _, h => absurd rfl h
  | (key, value) :: fields, h, rest, _ => by
    rw [arePlainFields, Bool.and_eq_true] at h
    have hvalue := value_write value h.1
    have hfields := fields_write fields h.2 rest
    rcases fields with _ | ⟨next, fields⟩
    · obtain ⟨t, htext, hchars⟩ := spellsChars_writeString key (':' :: (value.write ++ '\x7d' :: rest))
      have hfields : writeFields [(key, value)] ++ rest = '"' :: t := by
        rw [← htext, writeFields]
        simp
      rw [hfields]
      exact @Fields.last [] t [] _ [] rest key value isGap_nil hchars isGap_nil (hvalue _) isGap_nil
    · obtain ⟨t, htext, hchars⟩ :=
        spellsChars_writeString key (':' :: (value.write ++ ',' :: (writeFields (next :: fields) ++ rest)))
      have hmore : writeFields ((key, value) :: next :: fields) ++ rest = '"' :: t := by
        rw [← htext, writeFields]
        · simp
        · exact List.cons_ne_nil _ _
      rw [hmore]
      exact @Fields.more [] t [] _ [] _ rest key value _ isGap_nil hchars isGap_nil (hvalue _) isGap_nil
        (hfields (List.cons_ne_nil _ _))

end

/-- **A plain value is written as the grammar has it.** -/
theorem spells_write {j : Json} (h : j.isPlain = true) : Spells j.write j := by
  have hvalue := value_write j h []
  rw [List.append_nil] at hvalue
  exact ⟨[], hvalue, isGap_nil⟩

end Json

end ClusterBrowser
