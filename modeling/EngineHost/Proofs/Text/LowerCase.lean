import EngineHost.Text.Caseless
import Mathlib.Data.List.Basic

/-!
# Representatives from lower cases

The table of representatives is one way to say which characters are the same without regard to case.
Here the relation is put together from its two sources: the simple lower case of each character, and
the families of lower-case characters that have one upper case. Both ways say the same of every two
characters (`alike_iff_keyCode`). That the relation made of the two sources is transitive is a fact
about both of them: no lower-case character is in two families.

The tables are compared run by run. `Stretch.meet?` finds the one entry of a table that covers all
of a run, or finds that none covers any of it, so one look says how the table treats the whole run.
Each run passes a check (`LowerRun.keepsKey`, `CaseRun.keepsLetter`), and what the check says of the
members of a run is proved once for all runs.
-/

namespace EngineHost.Text

/-! ## Stretches of characters -/

/-- Code points at equal distances. -/
structure Stretch where
  first : Nat
  last : Nat
  step : Nat

namespace Stretch

variable {s p : Stretch} {n d : Nat}

def covers (s : Stretch) (n : Nat) : Bool :=
  s.first ≤ n && n ≤ s.last && (n - s.first) % s.step == 0

theorem covers_iff :
    s.covers n = true ↔ s.first ≤ n ∧ n ≤ s.last ∧ (n - s.first) % s.step = 0 := by
  simp [covers, and_assoc]

-- The tests on stretches compare by `Nat.ble` and `Nat.beq`, as they are evaluated on the tables.

/-- Do all members leave the same remainder? -/
def isUniform (p : Stretch) (d : Nat) : Bool := (p.step % d).beq 0 || p.first.beq p.last

/-- Are all members of `p` members of `s`? -/
def within (p s : Stretch) : Bool :=
  s.first.ble p.first && p.last.ble s.last && p.isUniform s.step &&
    (p.first % s.step).beq (s.first % s.step)

/-- Do the members of `p` leave another remainder than those of `s`? -/
def interleaves (p s : Stretch) : Bool :=
  p.isUniform s.step && !(p.first % s.step).beq (s.first % s.step)

theorem mod_eq_of_dvd {a b : Nat} (hle : a ≤ b) (hdvd : d ∣ b - a) : b % d = a % d := by
  obtain ⟨k, hk⟩ := hdvd
  rw [show b = a + d * k by omega, Nat.add_mul_mod_self_left]

theorem mod_eq_of_isUniform (h : p.isUniform d = true) (hn : p.covers n = true) :
    n % d = p.first % d := by
  obtain ⟨hfirst, hlast, hstep⟩ := covers_iff.mp hn
  rcases Bool.or_eq_true_iff.mp h with hd | heq
  · have hdvd : d ∣ p.step := Nat.dvd_of_mod_eq_zero (Nat.eq_of_beq_eq_true hd)
    exact mod_eq_of_dvd hfirst (Nat.dvd_trans hdvd (Nat.dvd_of_mod_eq_zero hstep))
  · have heq := Nat.eq_of_beq_eq_true heq
    rw [show n = p.first by omega]

theorem covers_of_within (h : p.within s = true) (hn : p.covers n = true) : s.covers n = true := by
  simp only [within, Bool.and_eq_true, Nat.ble_eq, Nat.beq_eq] at h
  obtain ⟨⟨⟨hfirst, hlast⟩, huniform⟩, hmod⟩ := h
  have hrest := (mod_eq_of_isUniform huniform hn).trans hmod
  obtain ⟨hpfirst, hplast, -⟩ := covers_iff.mp hn
  exact covers_iff.mpr ⟨by omega, by omega, Nat.sub_mod_eq_zero_of_mod_eq hrest⟩

theorem covers_eq_false_of_interleaves (h : p.interleaves s = true) (hn : p.covers n = true) :
    s.covers n = false := by
  rw [← Bool.not_eq_true, covers_iff]
  rintro ⟨hfirst, -, hstep⟩
  obtain ⟨huniform, hother⟩ := Bool.and_eq_true_iff.mp h
  have hmod := mod_eq_of_isUniform huniform hn
  rw [mod_eq_of_dvd hfirst (Nat.dvd_of_mod_eq_zero hstep)] at hmod
  rw [hmod, Nat.beq_refl] at hother
  contradiction

/-- The stretch of the same form that begins at another code point. -/
def startingAt (s : Stretch) (m : Nat) : Stretch := ⟨m, m + (s.last - s.first), s.step⟩

theorem covers_startingAt (m : Nat) (hn : s.covers n = true) :
    (s.startingAt m).covers (m + (n - s.first)) = true := by
  obtain ⟨hfirst, hlast, hstep⟩ := covers_iff.mp hn
  refine covers_iff.mpr ⟨Nat.le_add_right .., ?_, ?_⟩
  · show m + (n - s.first) ≤ m + (s.last - s.first)
    omega
  · show (m + (n - s.first) - m) % s.step = 0
    rwa [Nat.add_sub_cancel_left]

/-- The members of a stretch, in order. -/
def members (s : Stretch) : List Nat :=
  (List.range ((s.last - s.first) / s.step + 1)).map (s.first + · * s.step)

theorem mem_members (hn : s.covers n = true) : n ∈ s.members := by
  obtain ⟨hfirst, hlast, hstep⟩ := covers_iff.mp hn
  refine List.mem_map.mpr ⟨(n - s.first) / s.step, List.mem_range.mpr ?_, ?_⟩
  · exact Nat.lt_succ_of_le (Nat.div_le_div_right (by omega))
  · rw [Nat.div_mul_cancel (Nat.dvd_of_mod_eq_zero hstep)]
    omega

variable {ρ : Type} {stretch : ρ → Stretch} {table : List ρ} {met : Option ρ}

/-- The entry of a table that covers all of a stretch, or that none covers any of it; nothing if an
entry covers a part. The entries are in the order of their first code points. -/
def meet? (stretch : ρ → Stretch) (p : Stretch) : List ρ → Option (Option ρ)
  | [] => some none
  | r :: rest =>
    bif (stretch r).last.blt p.first then meet? stretch p rest
    else bif p.last.blt (stretch r).first then some none
    else bif p.within (stretch r) then some (some r)
    else bif p.interleaves (stretch r) then meet? stretch p rest
    else none

theorem find?_of_meet? (hsorted : (table.map fun r => (stretch r).first).Pairwise (· ≤ ·))
    (h : meet? stretch p table = some met) (hn : p.covers n = true) :
    table.find? (fun r => (stretch r).covers n) = met := by
  induction table with
  | nil => exact Option.some.inj h
  | cons r rest ih =>
    obtain ⟨hnext, hrest⟩ := List.pairwise_cons.mp hsorted
    obtain ⟨hfirst, hlast, -⟩ := covers_iff.mp hn
    rw [meet?] at h
    simp only [cond_eq_ite, Nat.blt_eq] at h
    split at h
    next hbefore =>
      -- The entry ends before the stretch begins.
      have hmiss : (stretch r).covers n = false := by
        rw [← Bool.not_eq_true, covers_iff]
        omega
      rw [List.find?_cons, hmiss]
      exact ih hrest h
    next =>
      split at h
      next hafter =>
        -- The entry begins after the stretch, and so do those behind it.
        cases h
        refine List.find?_eq_none.mpr fun r' hr' => ?_
        have hle : (stretch r).first ≤ (stretch r').first := by
          rcases List.mem_cons.mp hr' with rfl | hmem
          · exact Nat.le_refl _
          · exact hnext _ (List.mem_map_of_mem hmem)
        rw [covers_iff]
        omega
      next =>
        split at h
        next hwithin =>
          cases h
          exact List.find?_cons_of_pos (covers_of_within hwithin hn)
        next =>
          split at h
          next hother =>
            rw [List.find?_cons, covers_eq_false_of_interleaves hother hn]
            exact ih hrest h
          next => contradiction

end Stretch

/-! ## Lower cases and families -/

/-- A stretch of characters whose lower cases lie at one distance; `target` is that of the first. -/
structure LowerRun extends Stretch where
  target : Nat

/-- The characters that are not their own simple lower case. -/
def lowerRuns : List LowerRun :=
  [
    ⟨⟨0x41, 0x5a, 1⟩, 0x61⟩, ⟨⟨0xc0, 0xd6, 1⟩, 0xe0⟩, ⟨⟨0xd8, 0xde, 1⟩, 0xf8⟩,
    ⟨⟨0x100, 0x12e, 2⟩, 0x101⟩, ⟨⟨0x130, 0x130, 1⟩, 0x69⟩, ⟨⟨0x132, 0x136, 2⟩, 0x133⟩,
    ⟨⟨0x139, 0x147, 2⟩, 0x13a⟩, ⟨⟨0x14a, 0x176, 2⟩, 0x14b⟩, ⟨⟨0x178, 0x178, 1⟩, 0xff⟩,
    ⟨⟨0x179, 0x17d, 2⟩, 0x17a⟩, ⟨⟨0x181, 0x181, 1⟩, 0x253⟩, ⟨⟨0x182, 0x184, 2⟩, 0x183⟩,
    ⟨⟨0x186, 0x186, 1⟩, 0x254⟩, ⟨⟨0x187, 0x187, 1⟩, 0x188⟩, ⟨⟨0x189, 0x18a, 1⟩, 0x256⟩,
    ⟨⟨0x18b, 0x18b, 1⟩, 0x18c⟩, ⟨⟨0x18e, 0x18e, 1⟩, 0x1dd⟩, ⟨⟨0x18f, 0x18f, 1⟩, 0x259⟩,
    ⟨⟨0x190, 0x190, 1⟩, 0x25b⟩, ⟨⟨0x191, 0x191, 1⟩, 0x192⟩, ⟨⟨0x193, 0x193, 1⟩, 0x260⟩,
    ⟨⟨0x194, 0x194, 1⟩, 0x263⟩, ⟨⟨0x196, 0x196, 1⟩, 0x269⟩, ⟨⟨0x197, 0x197, 1⟩, 0x268⟩,
    ⟨⟨0x198, 0x198, 1⟩, 0x199⟩, ⟨⟨0x19c, 0x19c, 1⟩, 0x26f⟩, ⟨⟨0x19d, 0x19d, 1⟩, 0x272⟩,
    ⟨⟨0x19f, 0x19f, 1⟩, 0x275⟩, ⟨⟨0x1a0, 0x1a4, 2⟩, 0x1a1⟩, ⟨⟨0x1a6, 0x1a6, 1⟩, 0x280⟩,
    ⟨⟨0x1a7, 0x1a7, 1⟩, 0x1a8⟩, ⟨⟨0x1a9, 0x1a9, 1⟩, 0x283⟩, ⟨⟨0x1ac, 0x1ac, 1⟩, 0x1ad⟩,
    ⟨⟨0x1ae, 0x1ae, 1⟩, 0x288⟩, ⟨⟨0x1af, 0x1af, 1⟩, 0x1b0⟩, ⟨⟨0x1b1, 0x1b2, 1⟩, 0x28a⟩,
    ⟨⟨0x1b3, 0x1b5, 2⟩, 0x1b4⟩, ⟨⟨0x1b7, 0x1b7, 1⟩, 0x292⟩, ⟨⟨0x1b8, 0x1b8, 1⟩, 0x1b9⟩,
    ⟨⟨0x1bc, 0x1bc, 1⟩, 0x1bd⟩, ⟨⟨0x1c4, 0x1c4, 1⟩, 0x1c6⟩, ⟨⟨0x1c5, 0x1c5, 1⟩, 0x1c6⟩,
    ⟨⟨0x1c7, 0x1c7, 1⟩, 0x1c9⟩, ⟨⟨0x1c8, 0x1c8, 1⟩, 0x1c9⟩, ⟨⟨0x1ca, 0x1ca, 1⟩, 0x1cc⟩,
    ⟨⟨0x1cb, 0x1cb, 1⟩, 0x1cc⟩, ⟨⟨0x1cd, 0x1db, 2⟩, 0x1ce⟩, ⟨⟨0x1de, 0x1ee, 2⟩, 0x1df⟩,
    ⟨⟨0x1f1, 0x1f1, 1⟩, 0x1f3⟩, ⟨⟨0x1f2, 0x1f2, 1⟩, 0x1f3⟩, ⟨⟨0x1f4, 0x1f4, 1⟩, 0x1f5⟩,
    ⟨⟨0x1f6, 0x1f6, 1⟩, 0x195⟩, ⟨⟨0x1f7, 0x1f7, 1⟩, 0x1bf⟩, ⟨⟨0x1f8, 0x21e, 2⟩, 0x1f9⟩,
    ⟨⟨0x220, 0x220, 1⟩, 0x19e⟩, ⟨⟨0x222, 0x232, 2⟩, 0x223⟩, ⟨⟨0x23a, 0x23a, 1⟩, 0x2c65⟩,
    ⟨⟨0x23b, 0x23b, 1⟩, 0x23c⟩, ⟨⟨0x23d, 0x23d, 1⟩, 0x19a⟩, ⟨⟨0x23e, 0x23e, 1⟩, 0x2c66⟩,
    ⟨⟨0x241, 0x241, 1⟩, 0x242⟩, ⟨⟨0x243, 0x243, 1⟩, 0x180⟩, ⟨⟨0x244, 0x244, 1⟩, 0x289⟩,
    ⟨⟨0x245, 0x245, 1⟩, 0x28c⟩, ⟨⟨0x246, 0x24e, 2⟩, 0x247⟩, ⟨⟨0x370, 0x372, 2⟩, 0x371⟩,
    ⟨⟨0x376, 0x376, 1⟩, 0x377⟩, ⟨⟨0x37f, 0x37f, 1⟩, 0x3f3⟩, ⟨⟨0x386, 0x386, 1⟩, 0x3ac⟩,
    ⟨⟨0x388, 0x38a, 1⟩, 0x3ad⟩, ⟨⟨0x38c, 0x38c, 1⟩, 0x3cc⟩, ⟨⟨0x38e, 0x38f, 1⟩, 0x3cd⟩,
    ⟨⟨0x391, 0x398, 1⟩, 0x3b1⟩, ⟨⟨0x399, 0x399, 1⟩, 0x3b9⟩, ⟨⟨0x39a, 0x39b, 1⟩, 0x3ba⟩,
    ⟨⟨0x39c, 0x39c, 1⟩, 0x3bc⟩, ⟨⟨0x39d, 0x3ab, 2⟩, 0x3bd⟩, ⟨⟨0x39e, 0x3a0, 2⟩, 0x3be⟩,
    ⟨⟨0x3a4, 0x3aa, 2⟩, 0x3c4⟩, ⟨⟨0x3cf, 0x3cf, 1⟩, 0x3d7⟩, ⟨⟨0x3d8, 0x3ee, 2⟩, 0x3d9⟩,
    ⟨⟨0x3f4, 0x3f4, 1⟩, 0x3b8⟩, ⟨⟨0x3f7, 0x3f7, 1⟩, 0x3f8⟩, ⟨⟨0x3f9, 0x3f9, 1⟩, 0x3f2⟩,
    ⟨⟨0x3fa, 0x3fa, 1⟩, 0x3fb⟩, ⟨⟨0x3fd, 0x3ff, 1⟩, 0x37b⟩, ⟨⟨0x400, 0x40f, 1⟩, 0x450⟩,
    ⟨⟨0x410, 0x42f, 1⟩, 0x430⟩, ⟨⟨0x460, 0x480, 2⟩, 0x461⟩, ⟨⟨0x48a, 0x4be, 2⟩, 0x48b⟩,
    ⟨⟨0x4c0, 0x4c0, 1⟩, 0x4cf⟩, ⟨⟨0x4c1, 0x4cd, 2⟩, 0x4c2⟩, ⟨⟨0x4d0, 0x52e, 2⟩, 0x4d1⟩,
    ⟨⟨0x531, 0x556, 1⟩, 0x561⟩, ⟨⟨0x10a0, 0x10c5, 1⟩, 0x2d00⟩, ⟨⟨0x10c7, 0x10c7, 1⟩, 0x2d27⟩,
    ⟨⟨0x10cd, 0x10cd, 1⟩, 0x2d2d⟩, ⟨⟨0x13a0, 0x13ef, 1⟩, 0xab70⟩, ⟨⟨0x13f0, 0x13f5, 1⟩, 0x13f8⟩,
    ⟨⟨0x1c90, 0x1cba, 1⟩, 0x10d0⟩, ⟨⟨0x1cbd, 0x1cbf, 1⟩, 0x10fd⟩, ⟨⟨0x1e00, 0x1e94, 2⟩, 0x1e01⟩,
    ⟨⟨0x1e9e, 0x1e9e, 1⟩, 0xdf⟩, ⟨⟨0x1ea0, 0x1efe, 2⟩, 0x1ea1⟩, ⟨⟨0x1f08, 0x1f0f, 1⟩, 0x1f00⟩,
    ⟨⟨0x1f18, 0x1f1d, 1⟩, 0x1f10⟩, ⟨⟨0x1f28, 0x1f2f, 1⟩, 0x1f20⟩, ⟨⟨0x1f38, 0x1f3f, 1⟩, 0x1f30⟩,
    ⟨⟨0x1f48, 0x1f4d, 1⟩, 0x1f40⟩, ⟨⟨0x1f59, 0x1f5f, 2⟩, 0x1f51⟩, ⟨⟨0x1f68, 0x1f6f, 1⟩, 0x1f60⟩,
    ⟨⟨0x1f88, 0x1f8f, 1⟩, 0x1f80⟩, ⟨⟨0x1f98, 0x1f9f, 1⟩, 0x1f90⟩, ⟨⟨0x1fa8, 0x1faf, 1⟩, 0x1fa0⟩,
    ⟨⟨0x1fb8, 0x1fb9, 1⟩, 0x1fb0⟩, ⟨⟨0x1fba, 0x1fbb, 1⟩, 0x1f70⟩, ⟨⟨0x1fbc, 0x1fbc, 1⟩, 0x1fb3⟩,
    ⟨⟨0x1fc8, 0x1fcb, 1⟩, 0x1f72⟩, ⟨⟨0x1fcc, 0x1fcc, 1⟩, 0x1fc3⟩, ⟨⟨0x1fd8, 0x1fd9, 1⟩, 0x1fd0⟩,
    ⟨⟨0x1fda, 0x1fdb, 1⟩, 0x1f76⟩, ⟨⟨0x1fe8, 0x1fe9, 1⟩, 0x1fe0⟩, ⟨⟨0x1fea, 0x1feb, 1⟩, 0x1f7a⟩,
    ⟨⟨0x1fec, 0x1fec, 1⟩, 0x1fe5⟩, ⟨⟨0x1ff8, 0x1ff9, 1⟩, 0x1f78⟩, ⟨⟨0x1ffa, 0x1ffb, 1⟩, 0x1f7c⟩,
    ⟨⟨0x1ffc, 0x1ffc, 1⟩, 0x1ff3⟩, ⟨⟨0x2126, 0x2126, 1⟩, 0x3c9⟩, ⟨⟨0x212a, 0x212a, 1⟩, 0x6b⟩,
    ⟨⟨0x212b, 0x212b, 1⟩, 0xe5⟩, ⟨⟨0x2132, 0x2132, 1⟩, 0x214e⟩, ⟨⟨0x2160, 0x216f, 1⟩, 0x2170⟩,
    ⟨⟨0x2183, 0x2183, 1⟩, 0x2184⟩, ⟨⟨0x24b6, 0x24cf, 1⟩, 0x24d0⟩, ⟨⟨0x2c00, 0x2c2f, 1⟩, 0x2c30⟩,
    ⟨⟨0x2c60, 0x2c60, 1⟩, 0x2c61⟩, ⟨⟨0x2c62, 0x2c62, 1⟩, 0x26b⟩, ⟨⟨0x2c63, 0x2c63, 1⟩, 0x1d7d⟩,
    ⟨⟨0x2c64, 0x2c64, 1⟩, 0x27d⟩, ⟨⟨0x2c67, 0x2c6b, 2⟩, 0x2c68⟩, ⟨⟨0x2c6d, 0x2c6d, 1⟩, 0x251⟩,
    ⟨⟨0x2c6e, 0x2c6e, 1⟩, 0x271⟩, ⟨⟨0x2c6f, 0x2c6f, 1⟩, 0x250⟩, ⟨⟨0x2c70, 0x2c70, 1⟩, 0x252⟩,
    ⟨⟨0x2c72, 0x2c72, 1⟩, 0x2c73⟩, ⟨⟨0x2c75, 0x2c75, 1⟩, 0x2c76⟩, ⟨⟨0x2c7e, 0x2c7f, 1⟩, 0x23f⟩,
    ⟨⟨0x2c80, 0x2ce2, 2⟩, 0x2c81⟩, ⟨⟨0x2ceb, 0x2ced, 2⟩, 0x2cec⟩, ⟨⟨0x2cf2, 0x2cf2, 1⟩, 0x2cf3⟩,
    ⟨⟨0xa640, 0xa648, 2⟩, 0xa641⟩, ⟨⟨0xa64a, 0xa64a, 1⟩, 0xa64b⟩, ⟨⟨0xa64c, 0xa66c, 2⟩, 0xa64d⟩,
    ⟨⟨0xa680, 0xa69a, 2⟩, 0xa681⟩, ⟨⟨0xa722, 0xa72e, 2⟩, 0xa723⟩, ⟨⟨0xa732, 0xa76e, 2⟩, 0xa733⟩,
    ⟨⟨0xa779, 0xa77b, 2⟩, 0xa77a⟩, ⟨⟨0xa77d, 0xa77d, 1⟩, 0x1d79⟩, ⟨⟨0xa77e, 0xa786, 2⟩, 0xa77f⟩,
    ⟨⟨0xa78b, 0xa78b, 1⟩, 0xa78c⟩, ⟨⟨0xa78d, 0xa78d, 1⟩, 0x265⟩, ⟨⟨0xa790, 0xa792, 2⟩, 0xa791⟩,
    ⟨⟨0xa796, 0xa7a8, 2⟩, 0xa797⟩, ⟨⟨0xa7aa, 0xa7aa, 1⟩, 0x266⟩, ⟨⟨0xa7ab, 0xa7ab, 1⟩, 0x25c⟩,
    ⟨⟨0xa7ac, 0xa7ac, 1⟩, 0x261⟩, ⟨⟨0xa7ad, 0xa7ad, 1⟩, 0x26c⟩, ⟨⟨0xa7ae, 0xa7ae, 1⟩, 0x26a⟩,
    ⟨⟨0xa7b0, 0xa7b0, 1⟩, 0x29e⟩, ⟨⟨0xa7b1, 0xa7b1, 1⟩, 0x287⟩, ⟨⟨0xa7b2, 0xa7b2, 1⟩, 0x29d⟩,
    ⟨⟨0xa7b3, 0xa7b3, 1⟩, 0xab53⟩, ⟨⟨0xa7b4, 0xa7c2, 2⟩, 0xa7b5⟩, ⟨⟨0xa7c4, 0xa7c4, 1⟩, 0xa794⟩,
    ⟨⟨0xa7c5, 0xa7c5, 1⟩, 0x282⟩, ⟨⟨0xa7c6, 0xa7c6, 1⟩, 0x1d8e⟩, ⟨⟨0xa7c7, 0xa7c9, 2⟩, 0xa7c8⟩,
    ⟨⟨0xa7d0, 0xa7d0, 1⟩, 0xa7d1⟩, ⟨⟨0xa7d6, 0xa7d8, 2⟩, 0xa7d7⟩, ⟨⟨0xa7f5, 0xa7f5, 1⟩, 0xa7f6⟩,
    ⟨⟨0xff21, 0xff3a, 1⟩, 0xff41⟩, ⟨⟨0x10400, 0x10427, 1⟩, 0x10428⟩,
    ⟨⟨0x104b0, 0x104d3, 1⟩, 0x104d8⟩, ⟨⟨0x10570, 0x10594, 2⟩, 0x10597⟩,
    ⟨⟨0x10571, 0x10579, 2⟩, 0x10598⟩, ⟨⟨0x1057d, 0x10589, 2⟩, 0x105a4⟩,
    ⟨⟨0x1058d, 0x10591, 2⟩, 0x105b4⟩, ⟨⟨0x10595, 0x10595, 1⟩, 0x105bc⟩,
    ⟨⟨0x10c80, 0x10cb2, 1⟩, 0x10cc0⟩, ⟨⟨0x118a0, 0x118bf, 1⟩, 0x118c0⟩,
    ⟨⟨0x16e40, 0x16e5f, 1⟩, 0x16e60⟩, ⟨⟨0x1e900, 0x1e921, 1⟩, 0x1e922⟩]

/-- The simple lower case of a code point. -/
def lowerCode (n : Nat) : Nat :=
  match lowerRuns.find? (·.covers n) with
  | some run => run.target + (n - run.first)
  | none => n

/-- The families of lower-case characters that have the same upper case. -/
def families : List (List Nat) :=
  [[0x69, 0x131], [0x73, 0x17f], [0xb5, 0x3bc], [0x345, 0x3b9, 0x1fbe], [0x390, 0x1fd3],
    [0x3b0, 0x1fe3], [0x3b2, 0x3d0], [0x3b5, 0x3f5], [0x3b8, 0x3d1], [0x3ba, 0x3f0],
    [0x3c0, 0x3d6], [0x3c1, 0x3f1], [0x3c2, 0x3c3], [0x3c6, 0x3d5], [0x432, 0x1c80],
    [0x434, 0x1c81], [0x43e, 0x1c82], [0x441, 0x1c83], [0x442, 0x1c84, 0x1c85], [0x44a, 0x1c86],
    [0x463, 0x1c87], [0x1c88, 0xa64b], [0x1e61, 0x1e9b], [0xfb05, 0xfb06]]

/-- The lower cases are the same, or of one family. -/
def Alike (n m : Nat) : Prop :=
  lowerCode n = lowerCode m ∨
    ∃ family ∈ families, lowerCode n ∈ family ∧ lowerCode m ∈ family

theorem family_unique : ∀ f ∈ families, ∀ g ∈ families, ∀ n ∈ f, n ∈ g → f = g := by
  decide +kernel

namespace Alike

variable {n m k : Nat}

theorem symm (h : Alike n m) : Alike m n := by
  rcases h with h | ⟨family, hmem, hn, hm⟩
  · exact .inl h.symm
  · exact .inr ⟨family, hmem, hm, hn⟩

theorem trans (h : Alike n m) (h' : Alike m k) : Alike n k := by
  rcases h with h | ⟨f, hf, hn, hm⟩
  · rwa [Alike, h]
  · rcases h' with h' | ⟨g, hg, hm', hk⟩
    · exact .inr ⟨f, hf, hn, h' ▸ hm⟩
    · obtain rfl := family_unique f hf g hg _ hm hm'
      exact .inr ⟨f, hf, hn, hk⟩

end Alike

/-! ## How the table of representatives treats a stretch -/

/-- The representative of a code point. -/
def keyCode (n : Nat) : Nat :=
  match caseRuns.find? (·.covers n) with
  | some run => n - run.offset
  | none => n

theorem caseKey_eq_keyCode (c : Char) : caseKey c = keyCode c.toNat := rfl

def CaseRun.stretch (r : CaseRun) : Stretch := ⟨r.first, r.last, r.step⟩

theorem sorted_caseRuns : (caseRuns.map fun r => r.stretch.first).Pairwise (· ≤ ·) :=
  List.isChain_iff_pairwise.mp (by decide +kernel)

theorem sorted_lowerRuns : (lowerRuns.map fun r => r.first).Pairwise (· ≤ ·) :=
  List.isChain_iff_pairwise.mp (by decide +kernel)

/-- How far all of a stretch lies above its representatives. -/
def keyDrop? (p : Stretch) : Option Nat :=
  (p.meet? CaseRun.stretch caseRuns).map fun met => met.elim 0 CaseRun.offset

/-- By which numbers the lower cases of all of a stretch lie above and below it. -/
def lowerMove? (p : Stretch) : Option (Nat × Nat) :=
  (p.meet? LowerRun.toStretch lowerRuns).map fun met => met.elim (0, 0) fun r => (r.target, r.first)

section

variable {p : Stretch} {n : Nat}

theorem keyCode_of_keyDrop? {k : Nat} (h : keyDrop? p = some k) (hn : p.covers n = true) :
    keyCode n = n - k := by
  obtain ⟨met, hmeet, rfl⟩ := Option.map_eq_some_iff.mp h
  have hfind : caseRuns.find? (·.covers n) = met :=
    Stretch.find?_of_meet? sorted_caseRuns hmeet hn
  rw [keyCode, hfind]
  cases met <;> rfl

theorem lowerCode_of_lowerMove? {rise fall : Nat} (h : lowerMove? p = some (rise, fall))
    (hn : p.covers n = true) : lowerCode n + fall = n + rise := by
  obtain ⟨met, hmeet, hmove⟩ := Option.map_eq_some_iff.mp h
  have hfind : lowerRuns.find? (·.covers n) = met :=
    Stretch.find?_of_meet? sorted_lowerRuns hmeet hn
  rw [lowerCode, hfind]
  cases met with
  | none =>
    cases hmove
    rfl
  | some r =>
    cases hmove
    have hcovers := List.find?_some hfind
    obtain ⟨hfirst, -⟩ := Stretch.covers_iff.mp hcovers
    show r.target + (n - r.first) + r.first = n + r.target
    omega

end

/-! ## Alike characters have one representative -/

/-- Do the characters of a run have the representatives of their lower cases? -/
def LowerRun.keepsKey (r : LowerRun) : Bool :=
  match keyDrop? r.toStretch, keyDrop? (r.startingAt r.target) with
  | some drop, some drop' => (r.target + drop).beq (r.first + drop')
  | _, _ => false

theorem LowerRun.keyCode_eq_of_keepsKey {r : LowerRun} {n : Nat} (h : r.keepsKey = true)
    (hn : r.covers n = true) : keyCode (r.target + (n - r.first)) = keyCode n := by
  unfold keepsKey at h
  split at h
  next drop drop' hsource htarget =>
    have hsum := Nat.eq_of_beq_eq_true h
    have hfirst : r.first ≤ n := (Stretch.covers_iff.mp hn).1
    rw [keyCode_of_keyDrop? hsource hn,
      keyCode_of_keyDrop? htarget (Stretch.covers_startingAt r.target hn)]
    omega
  next => contradiction

theorem keepsKey_lowerRuns : lowerRuns.all LowerRun.keepsKey = true := by
  decide +kernel

theorem keyCode_lowerCode (n : Nat) : keyCode (lowerCode n) = keyCode n := by
  unfold lowerCode
  split
  next r hfind =>
    have hkeeps := List.all_eq_true.mp keepsKey_lowerRuns r (List.mem_of_find?_eq_some hfind)
    have hn := List.find?_some hfind
    exact r.keyCode_eq_of_keepsKey hkeeps hn
  next => rfl

theorem keyCode_eq_of_mem_family :
    ∀ family ∈ families, ∀ n ∈ family, keyCode n = keyCode (family.headD 0) := by
  decide +kernel

theorem keyCode_eq_of_alike {n m : Nat} (h : Alike n m) : keyCode n = keyCode m := by
  rw [← keyCode_lowerCode n, ← keyCode_lowerCode m]
  rcases h with h | ⟨family, hmem, hn, hm⟩
  · rw [h]
  · rw [keyCode_eq_of_mem_family family hmem _ hn, keyCode_eq_of_mem_family family hmem _ hm]

/-! ## A character is alike to its representative -/

/-- Are the characters of a run alike to their representatives? Their lower cases are the same all
along the run, or of one family at each member. -/
def CaseRun.keepsLetter (r : CaseRun) : Bool :=
  r.offset.ble r.first &&
    match lowerMove? r.stretch, lowerMove? (r.stretch.startingAt (r.first - r.offset)) with
    | some (rise, fall), some (rise', fall') =>
      (rise + r.offset + fall').beq (rise' + fall) ||
        r.stretch.members.all fun n => families.any fun family =>
          family.contains (n + rise - fall) && family.contains (n - r.offset + rise' - fall')
    | _, _ => false

theorem CaseRun.alike_of_keepsLetter {r : CaseRun} {n : Nat} (h : r.keepsLetter = true)
    (hn : r.stretch.covers n = true) : Alike (n - r.offset) n := by
  obtain ⟨hoffset, h⟩ := Bool.and_eq_true_iff.mp h
  have hoffset : r.offset ≤ r.first := Nat.le_of_ble_eq_true hoffset
  have hfirst : r.first ≤ n := (Stretch.covers_iff.mp hn).1
  have hkey : (r.stretch.startingAt (r.first - r.offset)).covers (n - r.offset) = true := by
    have hmoved := Stretch.covers_startingAt (r.first - r.offset) hn
    change Stretch.covers _ (r.first - r.offset + (n - r.first)) = true at hmoved
    rwa [show r.first - r.offset + (n - r.first) = n - r.offset by omega] at hmoved
  split at h
  next rise fall rise' fall' hsource hkeys =>
    have hlower := lowerCode_of_lowerMove? hsource hn
    have hlower' := lowerCode_of_lowerMove? hkeys hkey
    rcases Bool.or_eq_true_iff.mp h with hsame | hfamily
    · have hsame := Nat.eq_of_beq_eq_true hsame
      exact .inl (by omega)
    · obtain ⟨family, hmem, hboth⟩ :=
        List.any_eq_true.mp (List.all_eq_true.mp hfamily n (Stretch.mem_members hn))
      obtain ⟨hmemn, hmemkey⟩ := Bool.and_eq_true_iff.mp hboth
      rw [show n + rise - fall = lowerCode n by omega] at hmemn
      rw [show n - r.offset + rise' - fall' = lowerCode (n - r.offset) by omega] at hmemkey
      exact .inr ⟨family, hmem, List.contains_iff_mem.mp hmemkey, List.contains_iff_mem.mp hmemn⟩
  next => contradiction

theorem keepsLetter_caseRuns : caseRuns.all CaseRun.keepsLetter = true := by
  decide +kernel

theorem alike_keyCode (n : Nat) : Alike (keyCode n) n := by
  unfold keyCode
  split
  next r hfind =>
    have hkeeps := List.all_eq_true.mp keepsLetter_caseRuns r (List.mem_of_find?_eq_some hfind)
    have hn := List.find?_some hfind
    exact r.alike_of_keepsLetter hkeeps hn
  next => exact .inl rfl

/-- Lower cases and families relate the characters that have one representative. -/
theorem alike_iff_keyCode {n m : Nat} : Alike n m ↔ keyCode n = keyCode m := by
  refine ⟨keyCode_eq_of_alike, fun h => ?_⟩
  have hkey := alike_keyCode n
  rw [h] at hkey
  exact hkey.symm.trans (alike_keyCode m)

end EngineHost.Text
