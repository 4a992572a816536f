import EngineHost.Cli.Output
import EngineHost.Proofs.Number.Digits
import Mathlib.Algebra.Group.Nat.Defs

/-!
# What the object of a report tells

A report can be read back from the object it is printed as: two reports are printed alike only if
they are the same (`jsonReport_inj`). No character is written like the beginning of another one,
a text ends at the first quote that is not escaped, and a list at the first bracket after a text.

Each step is stated for a text with something after it, from where the next step goes on.
-/

namespace EngineHost.Text

theorem hexDigits_inj {width m n : Nat} (hm : m < 16 ^ width) (hn : n < 16 ^ width)
    (h : hexDigits width m = hexDigits width n) : m = n := by
  have hdigit : ∀ a < 16, ∀ b < 16, Nat.digitChar a = Nat.digitChar b → a = b := by decide
  induction width generalizing m n with
  | zero => rw [Nat.pow_zero] at hm hn; omega
  | succ width ih =>
    rw [Nat.pow_succ] at hm hn
    obtain ⟨hfront, hlast⟩ := List.append_inj' h rfl
    have hquotient : m / 16 = n / 16 := ih (by omega) (by omega) hfront
    have hremainder : m % 16 = n % 16 :=
      hdigit _ (Nat.mod_lt m (by decide)) _ (Nat.mod_lt n (by decide)) (List.cons.inj hlast).1
    omega

theorem hexDigits_append_inj {width m n : Nat} {s t : List Char} (hm : m < 16 ^ width)
    (hn : n < 16 ^ width) (h : hexDigits width m ++ s = hexDigits width n ++ t) :
    m = n ∧ s = t := by
  have hlength : (hexDigits width m).length = (hexDigits width n).length := by
    rw [length_hexDigits, length_hexDigits]
  obtain ⟨hdigits, hrest⟩ := List.append_inj h hlength
  exact ⟨hexDigits_inj hm hn hdigits, hrest⟩

end EngineHost.Text

namespace EngineHost.Cli

open EngineHost.Number EngineHost.Text

/-! ## Characters -/

theorem escapeUnit_append_inj {m n : Nat} {s t : List Char} (hm : m < 0x10000) (hn : n < 0x10000)
    (h : escapeUnit m ++ s = escapeUnit n ++ t) : m = n ∧ s = t := by
  rw [escapeUnit, escapeUnit, List.cons_append, List.cons_append, List.cons_append,
    List.cons_append, List.cons.injEq, List.cons.injEq] at h
  exact hexDigits_append_inj hm hn h.2.2

/-- The characters that have an escape of one letter, with the letter. -/
def letterEscapes : List (Char × Char) :=
  [('"', '"'), ('\\', '\\'), ('\n', 'n'), ('\r', 'r'), ('\t', 't'), ('\x08', 'b'), ('\x0c', 'f')]

/-- The ways to write a character. -/
inductive Written (c : Char) : List Char → Prop
  | plain (hquote : c ≠ '"') (hescape : c ≠ '\\') : Written c [c]
  | letter {e : Char} (h : (c, e) ∈ letterEscapes) : Written c ['\\', e]
  | unit (h : c.toNat < 0x10000) : Written c (escapeUnit c.toNat)
  | halves (h : 0x10000 ≤ c.toNat) :
    Written c (escapeUnit (0xd800 + (c.toNat - 0x10000) / 0x400) ++
      escapeUnit (0xdc00 + (c.toNat - 0x10000) % 0x400))

theorem written_jsonChar (c : Char) : Written c (jsonChar c) := by
  unfold jsonChar
  split
  case h_8 c hquote hescape _ _ _ _ _ =>
    simp only [Bool.and_eq_true, decide_eq_true_eq]
    split
    · exact .plain hquote hescape
    · split
      next h => exact .unit h
      next h => exact .halves (Nat.le_of_not_lt h)
  all_goals exact .letter (by decide)

theorem letter_inj {c d e : Char} (hc : (c, e) ∈ letterEscapes) (hd : (d, e) ∈ letterEscapes) :
    c = d := by
  have hunique : ∀ x ∈ letterEscapes, ∀ y ∈ letterEscapes, x.2 = y.2 → x.1 = y.1 := by decide
  exact hunique _ hc _ hd rfl

theorem letter_ne_unit {c e : Char} (h : (c, e) ∈ letterEscapes) : e ≠ 'u' := by
  have hother : ∀ x ∈ letterEscapes, x.2 ≠ 'u' := by decide
  exact hother _ h

theorem toNat_bounds (c : Char) :
    c.toNat < 0xd800 ∨ (0xdfff < c.toNat ∧ c.toNat < 0x110000) := c.valid

/-- The first half of a pair is no character of its own. -/
theorem escapeUnit_append_ne_halves {c d : Char} (hc : c.toNat < 0x10000) (s t : List Char) :
    escapeUnit c.toNat ++ s ≠ escapeUnit (0xd800 + (d.toNat - 0x10000) / 0x400) ++ t := by
  intro h
  have hcbounds := toNat_bounds c
  have hdbounds := toNat_bounds d
  obtain ⟨hunit, -⟩ := escapeUnit_append_inj hc (by omega) h
  omega

theorem toNat_eq_of_halves {c d : Char} (hc : 0x10000 ≤ c.toNat) (hd : 0x10000 ≤ d.toNat)
    {s t : List Char}
    (h : escapeUnit (0xd800 + (c.toNat - 0x10000) / 0x400) ++
        (escapeUnit (0xdc00 + (c.toNat - 0x10000) % 0x400) ++ s) =
      escapeUnit (0xd800 + (d.toNat - 0x10000) / 0x400) ++
        (escapeUnit (0xdc00 + (d.toNat - 0x10000) % 0x400) ++ t)) : c.toNat = d.toNat := by
  have hcbounds := toNat_bounds c
  have hdbounds := toNat_bounds d
  obtain ⟨hhigh, hrest⟩ := escapeUnit_append_inj (by omega) (by omega) h
  obtain ⟨hlow, -⟩ := escapeUnit_append_inj (by omega) (by omega) hrest
  omega

/-- What a text begins with tells the character. -/
theorem Written.eq_of_append_eq {c d : Char} {a b s t : List Char} (hc : Written c a)
    (hd : Written d b) (h : a ++ s = b ++ t) : c = d := by
  -- The four ways to write it differ in the first sign, in the second one, or in the first escaped
  -- unit.
  cases hc with
  | plain _ hescape =>
    cases hd with
    | plain => exact (List.cons.inj h).1
    | _ => exact absurd (List.cons.inj h).1 hescape
  | letter he =>
    cases hd with
    | plain _ hescape => exact absurd (List.cons.inj h).1.symm hescape
    | letter he' =>
      have hletter := (List.cons.inj (List.cons.inj h).2).1
      exact letter_inj he (hletter ▸ he')
    | _ => exact absurd (List.cons.inj (List.cons.inj h).2).1 (letter_ne_unit he)
  | unit hsmall =>
    cases hd with
    | plain _ hescape => exact absurd (List.cons.inj h).1.symm hescape
    | letter he => exact absurd (List.cons.inj (List.cons.inj h).2).1.symm (letter_ne_unit he)
    | unit hsmall' => exact Char.toNat_inj.mp (escapeUnit_append_inj hsmall hsmall' h).1
    | halves =>
      rw [List.append_assoc] at h
      exact absurd h (escapeUnit_append_ne_halves hsmall _ _)
  | halves hlarge =>
    cases hd with
    | plain _ hescape => exact absurd (List.cons.inj h).1.symm hescape
    | letter he => exact absurd (List.cons.inj (List.cons.inj h).2).1.symm (letter_ne_unit he)
    | unit hsmall =>
      rw [List.append_assoc] at h
      exact absurd h.symm (escapeUnit_append_ne_halves hsmall _ _)
    | halves hlarge' =>
      rw [List.append_assoc, List.append_assoc] at h
      exact Char.toNat_inj.mp (toNat_eq_of_halves hlarge hlarge' h)

theorem jsonChar_append_inj {c d : Char} {s t : List Char}
    (h : jsonChar c ++ s = jsonChar d ++ t) : c = d ∧ s = t := by
  have hcd := (written_jsonChar c).eq_of_append_eq (written_jsonChar d) h
  rw [hcd] at h
  exact ⟨hcd, List.append_cancel_left h⟩

theorem Written.append_ne_quote {c : Char} {a : List Char} (h : Written c a) (s t : List Char) :
    a ++ s ≠ '"' :: t := by
  intro heq
  cases h with
  | plain hquote => exact hquote (List.cons.inj heq).1
  | _ => exact absurd (List.cons.inj heq).1 (by decide)

/-! ## Texts -/

-- By induction on the first text: the second one begins with the same character, or both end.
theorem flatMap_jsonChar_append_inj {a b s t : List Char}
    (h : a.flatMap jsonChar ++ '"' :: s = b.flatMap jsonChar ++ '"' :: t) : a = b ∧ s = t := by
  induction a generalizing b with
  | nil =>
    cases b with
    | nil => exact ⟨rfl, (List.cons.inj h).2⟩
    | cons d b =>
      rw [List.flatMap_cons, List.append_assoc] at h
      exact absurd h.symm ((written_jsonChar d).append_ne_quote _ _)
  | cons c a ih =>
    rw [List.flatMap_cons, List.append_assoc] at h
    cases b with
    | nil => exact absurd h ((written_jsonChar c).append_ne_quote _ _)
    | cons d b =>
      rw [List.flatMap_cons, List.append_assoc] at h
      obtain ⟨rfl, hrest⟩ := jsonChar_append_inj h
      obtain ⟨rfl, hst⟩ := ih hrest
      exact ⟨rfl, hst⟩

theorem jsonText_append_inj {a b : String} {s t : List Char}
    (h : (jsonText a).toList ++ s = (jsonText b).toList ++ t) : a = b ∧ s = t := by
  simp only [jsonText, String.toList_ofList, List.cons_append, List.append_assoc,
    List.nil_append, List.cons.injEq, true_and] at h
  obtain ⟨htext, hrest⟩ := flatMap_jsonChar_append_inj h
  exact ⟨String.toList_inj.mp htext, hrest⟩

/-! ## Lists of texts -/

/-- The texts of a list with what stands between them, and with something after the last one. -/
def listed (texts : List String) (s : List Char) : List Char :=
  (", ".intercalate (texts.map jsonText)).toList ++ s

theorem listed_singleton (a : String) (s : List Char) :
    listed [a] s = (jsonText a).toList ++ s := by
  rw [listed, List.map_cons, List.map_nil, String.intercalate_singleton]

theorem listed_cons_cons (a b : String) (texts : List String) (s : List Char) :
    listed (a :: b :: texts) s = (jsonText a).toList ++ ',' :: ' ' :: listed (b :: texts) s := by
  have hcomma : ", ".toList = [',', ' '] := rfl
  rw [listed, List.map_cons, List.map_cons, String.intercalate_cons_cons, String.toList_append,
    String.toList_append, hcomma, ← List.map_cons, listed]
  simp only [List.append_assoc, List.cons_append, List.nil_append]

-- After a text, a comma leads to the next one and a bracket ends the list.
theorem listed_inj {a b : String} {as bs : List String} {s t : List Char}
    (h : listed (a :: as) (']' :: s) = listed (b :: bs) (']' :: t)) : a :: as = b :: bs ∧ s = t := by
  induction as generalizing a b bs with
  | nil =>
    rw [listed_singleton] at h
    cases bs with
    | nil =>
      rw [listed_singleton] at h
      obtain ⟨rfl, hrest⟩ := jsonText_append_inj h
      exact ⟨rfl, (List.cons.inj hrest).2⟩
    | cons b' bs =>
      rw [listed_cons_cons] at h
      obtain ⟨-, hrest⟩ := jsonText_append_inj h
      exact absurd (List.cons.inj hrest).1 (by decide)
  | cons a' as ih =>
    rw [listed_cons_cons] at h
    cases bs with
    | nil =>
      rw [listed_singleton] at h
      obtain ⟨-, hrest⟩ := jsonText_append_inj h
      exact absurd (List.cons.inj hrest).1 (by decide)
    | cons b' bs =>
      rw [listed_cons_cons] at h
      obtain ⟨rfl, hrest⟩ := jsonText_append_inj h
      obtain ⟨hlists, hst⟩ := ih (List.cons.inj (List.cons.inj hrest).2).2
      exact ⟨congrArg _ hlists, hst⟩

-- A list that is not empty begins with a quote.
theorem listed_ne_bracket (a : String) (as : List String) (s t : List Char) :
    listed (a :: as) s ≠ ']' :: t := by
  intro h
  cases as with
  | nil =>
    rw [listed_singleton, jsonText, String.toList_ofList] at h
    exact absurd (List.cons.inj h).1 (by decide)
  | cons a' as =>
    rw [listed_cons_cons, jsonText, String.toList_ofList] at h
    exact absurd (List.cons.inj h).1 (by decide)

theorem toList_jsonTexts (texts : List String) (s : List Char) :
    (jsonTexts texts).toList ++ s = '[' :: listed texts (']' :: s) := by
  have hopen : "[".toList = ['['] := rfl
  have hclose : "]".toList = [']'] := rfl
  rw [jsonTexts, String.toList_append, String.toList_append, hopen, hclose, listed,
    List.append_assoc, List.append_assoc, List.singleton_append, List.singleton_append]

theorem jsonTexts_append_inj {as bs : List String} {s t : List Char}
    (h : (jsonTexts as).toList ++ s = (jsonTexts bs).toList ++ t) : as = bs ∧ s = t := by
  rw [toList_jsonTexts, toList_jsonTexts] at h
  replace h := (List.cons.inj h).2
  cases as with
  | nil =>
    cases bs with
    | nil => exact ⟨rfl, (List.cons.inj h).2⟩
    | cons b bs => exact absurd h.symm (listed_ne_bracket b bs _ _)
  | cons a as =>
    cases bs with
    | nil => exact absurd h (listed_ne_bracket a as _ _)
    | cons b bs => exact listed_inj h

theorem toList_jsonReport (exitCode : Nat) (lines errLines : List String) :
    (jsonReport exitCode lines errLines).toList =
      "\x7b\"exit_code\": ".toList ++ (intDigits exitCode ++ (", \"lines\": ".toList ++
        ((jsonTexts lines).toList ++ (", \"stderr\": ".toList ++
          ((jsonTexts errLines).toList ++ "\x7d".toList))))) := by
  unfold jsonReport intText
  simp only [String.toList_append, String.toList_ofList, List.append_assoc]

/-- An object is printed for one report only. -/
theorem jsonReport_inj {exitCode exitCode' : Nat} {lines lines' errLines errLines' : List String}
    (h : jsonReport exitCode lines errLines = jsonReport exitCode' lines' errLines') :
    exitCode = exitCode' ∧ lines = lines' ∧ errLines = errLines' := by
  -- The digits of the exit code end at a comma.
  have hends : ∀ s, Ends Char.isDigit (", \"lines\": ".toList ++ s) := by
    have hcomma : ", \"lines\": ".toList.head? = some ',' := by decide +kernel
    intro s c hc
    rw [List.head?_append, hcomma, Option.some_or, Option.some.injEq] at hc
    rw [← hc]
    decide
  replace h := congrArg String.toList h
  rw [toList_jsonReport, toList_jsonReport] at h
  replace h := List.append_cancel_left h
  obtain ⟨hexit, h⟩ := intDigits_append_inj (hends _) (hends _) h
  replace h := List.append_cancel_left h
  obtain ⟨hlines, h⟩ := jsonTexts_append_inj h
  replace h := List.append_cancel_left h
  obtain ⟨herr, -⟩ := jsonTexts_append_inj h
  exact ⟨Int.ofNat.inj hexit, hlines, herr⟩

end EngineHost.Cli
