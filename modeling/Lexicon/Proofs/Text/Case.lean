import Lexicon.Text.Case

/-!
# Lexicon — lower case twice

What has been put into lower case stays as it is when that is done again. One character at a
time this is a property of the tables: a run of capital letters is moved to where no run begins.
It carries over to texts since the capital sigma, whose image depends on its neighbours, is
itself never the image of a character.

* `CaseRun.covers`, `CaseRun.misses` — the characters of a run, and a test by which all of them
                        are moved beside another run.
* `lowerNamed`        — the characters whose lower case is another one.
* `lowerRuns_table`, `images_table`, `ascii_table` — what is checked of the tables.
* `lowerChar_fixed`   — the image of a character is its own image.
* `lower_lower`       — lower case is its own lower case.
-/

namespace Lexicon.Text

-- ---------------------------------------------------------------------------
-- Runs
-- ---------------------------------------------------------------------------

namespace CaseRun

/-- Does the run hold the character of this number? -/
def covers (run : CaseRun) (n : Nat) : Prop :=
  run.first ≤ n ∧ n ≤ run.last ∧ (n - run.first) % run.step = 0

instance (run : CaseRun) (n : Nat) : Decidable (run.covers n) :=
  inferInstanceAs (Decidable (_ ∧ _ ∧ _))

/-- The number to which the run moves a number. -/
def image (run : CaseRun) (n : Nat) : Nat := ((n : Int) + run.shift).toNat

/-- Is the run one of single or of double steps, with its images among the characters and
beyond zero? -/
def isPlain (run : CaseRun) : Bool :=
  (run.step == 1 || run.step == 2) && decide (0 ≤ run.first + run.shift) &&
    (decide (run.last + run.shift < 0xD800) ||
      decide (0xDFFF < run.first + run.shift) && decide (run.last + run.shift < 0x110000))

/-- Does what lies between `low` and `high`, the images of a run, lie beside another run? Either
all of it lies before or behind that one, or both go in double steps and never meet. -/
def misses (run : CaseRun) (low high : Nat) (other : CaseRun) : Bool :=
  high.blt other.first || other.last.blt low ||
    (other.step.beq 2 && (run.step.beq 2 || run.first.beq run.last) &&
      ((low + other.first) % 2).beq 1)

theorem not_covers_image {run other : CaseRun} (hPlain : run.isPlain = true)
    (hMiss : run.misses (run.image run.first) (run.image run.last) other = true) {n : Nat}
    (hCovers : run.covers n) : ¬ other.covers (run.image n) := by
  obtain ⟨hFirst, hLast, hStep⟩ := hCovers
  simp only [isPlain, Bool.and_eq_true, Bool.or_eq_true, beq_iff_eq, decide_eq_true_eq] at hPlain
  simp only [misses, image, Bool.or_eq_true, Bool.and_eq_true, Nat.blt_eq, Nat.beq_eq] at hMiss
  rintro ⟨hLow, hHigh, hOther⟩
  simp only [image] at hLow hHigh hOther
  obtain ⟨⟨hOneOrTwo, hBeyond⟩, -⟩ := hPlain
  rcases hMiss with (hBefore | hBehind) | ⟨⟨hDouble, hRun⟩, hOdd⟩
  · omega
  · omega
  · -- both go in steps of two, and begin at numbers of which one is odd
    rw [hDouble] at hOther
    rcases hRun with hTwo | hSingle
    · rw [hTwo] at hStep
      omega
    · omega

end CaseRun

/-- The characters whose lower case is another one, as runs: those with several images stand
for themselves. -/
def lowerNamed : List CaseRun :=
  lowerRuns.toList ++ lowerWide.toList.map fun e => ⟨e.1, e.1, 1, 0⟩

/-- No run of the lower-case mapping leads to a character whose lower case is another one. -/
theorem lowerRuns_table : ∀ run ∈ lowerRuns.toList, run.isPlain = true ∧
    ∀ other ∈ lowerNamed, run.misses (run.image run.first) (run.image run.last) other = true := by
  have hAll : (lowerRuns.toList.all fun run => run.isPlain &&
      lowerNamed.all (run.misses (run.image run.first) (run.image run.last))) = true := by
    decide +kernel
  intro run hRun
  obtain ⟨hPlain, hMisses⟩ := Bool.and_eq_true_iff.mp (List.all_eq_true.mp hAll run hRun)
  exact ⟨hPlain, List.all_eq_true.mp hMisses⟩

/-- The characters that are in lower case without being the image of a run: the images of those that
have several, and the small sigmas. No run begins at them. -/
theorem images_table : ∀ n ∈ lowerWide.toList.flatMap Prod.snd ++ ['ς'.toNat, 'σ'.toNat],
    (Char.ofNat n).toNat = n ∧ ∀ run ∈ lowerNamed, ¬ run.covers n := by
  decide +kernel

-- ---------------------------------------------------------------------------
-- One character
-- ---------------------------------------------------------------------------

theorem moved?_eq_none {runs : Array CaseRun} {c : Char}
    (h : ∀ run ∈ runs.toList, ¬ run.covers c.toNat) : moved? runs c = none := by
  rw [moved?, Option.map_eq_none_iff, Array.find?_eq_none]
  intro run hRun hCovers
  simp only [Bool.and_eq_true, decide_eq_true_eq, beq_iff_eq] at hCovers
  exact h run (Array.mem_toList_iff.mpr hRun) ⟨hCovers.1.1, hCovers.1.2, hCovers.2⟩

theorem exists_of_moved? {runs : Array CaseRun} {c d : Char} (h : moved? runs c = some d) :
    ∃ run ∈ runs.toList, run.covers c.toNat ∧ d = Char.ofNat (run.image c.toNat) := by
  obtain ⟨run, hFind, rfl⟩ := Option.map_eq_some_iff.mp h
  have hCovers := Array.find?_some hFind
  simp only [Bool.and_eq_true, decide_eq_true_eq, beq_iff_eq] at hCovers
  exact ⟨run, Array.mem_toList_iff.mpr (Array.mem_of_find?_eq_some hFind),
    ⟨hCovers.1.1, hCovers.1.2, hCovers.2⟩, rfl⟩

theorem toNat_image {run : CaseRun} (hPlain : run.isPlain = true) {n : Nat}
    (hCovers : run.covers n) : (Char.ofNat (run.image n)).toNat = run.image n := by
  obtain ⟨hFirst, hLast, -⟩ := hCovers
  simp only [CaseRun.isPlain, Bool.and_eq_true, Bool.or_eq_true, beq_iff_eq,
    decide_eq_true_eq] at hPlain
  have hValid : (run.image n).isValidChar := by
    rw [CaseRun.image, Nat.isValidChar]
    omega
  rw [Char.ofNat, dif_pos hValid]
  rfl

/-- In ASCII only the capital letters have another lower case, and what that leads to has none. -/
theorem ascii_table : ∀ n < 128,
    (n < 0x41 ∨ 0x5A < n → (Char.ofNat n).toLower = Char.ofNat n) ∧
      lowerChar (Char.ofNat n).toLower = [(Char.ofNat n).toLower] := by
  decide +kernel

/-- A character whose lower case is no other one is its own image. -/
theorem lowerChar_eq_self {c : Char} (h : ∀ run ∈ lowerNamed, ¬ run.covers c.toNat) :
    lowerChar c = [c] := by
  rw [lowerChar]
  split
  · -- the capital letters of ASCII are the first run
    rename_i hAscii
    have hCapital : ¬ (⟨0x41, 0x5A, 1, 32⟩ : CaseRun).covers c.toNat :=
      h _ (List.mem_append_left _ (by rw [lowerRuns]; exact List.mem_cons_self ..))
    have hSmall := (ascii_table c.toNat (of_decide_eq_true hAscii)).1 (by
      simp only [CaseRun.covers, Nat.mod_one, and_true] at hCapital
      omega)
    rw [Char.ofNat_toNat] at hSmall
    rw [hSmall]
  · have hWide : widened? lowerWide c = none := by
      rw [widened?, Option.map_eq_none_iff, Array.find?_eq_none]
      intro e he hSame
      refine h ⟨e.1, e.1, 1, 0⟩ (List.mem_append_right _ ?_) ?_
      · exact List.mem_map.mpr ⟨e, Array.mem_toList_iff.mpr he, rfl⟩
      · rw [← beq_iff_eq.mp hSame]
        exact ⟨Nat.le_refl _, Nat.le_refl _, Nat.mod_one _⟩
    have hMoved : moved? lowerRuns c = none :=
      moved?_eq_none fun run hRun => h run (List.mem_append_left _ hRun)
    rw [hWide, hMoved]
    rfl

/-- The images of the characters that have several are their own images, and so are the small
sigmas. -/
theorem lowerChar_of_mem_table {n : Nat}
    (h : n ∈ lowerWide.toList.flatMap Prod.snd ++ ['ς'.toNat, 'σ'.toNat]) :
    lowerChar (Char.ofNat n) = [Char.ofNat n] := by
  obtain ⟨hSame, hFree⟩ := images_table n h
  exact lowerChar_eq_self (hSame.symm ▸ hFree)

/-- **The image of a character is its own image.** -/
theorem lowerChar_fixed (c : Char) : ∀ d ∈ lowerChar c, lowerChar d = [d] := by
  intro d hd
  rw [lowerChar] at hd
  split at hd
  · rename_i hAscii
    have hFixed := (ascii_table c.toNat (of_decide_eq_true hAscii)).2
    rw [Char.ofNat_toNat] at hFixed
    rw [List.mem_singleton.mp hd, hFixed]
  · rename_i hAscii
    split at hd
    · rename_i image hWide
      obtain ⟨e, hFind, rfl⟩ := Option.map_eq_some_iff.mp hWide
      obtain ⟨n, hn, rfl⟩ := List.mem_map.mp hd
      have hMem : e ∈ lowerWide.toList := Array.mem_toList_iff.mpr (Array.mem_of_find?_eq_some hFind)
      exact lowerChar_of_mem_table (List.mem_append_left _ (List.mem_flatMap.mpr ⟨e, hMem, hn⟩))
    · rename_i hWide
      cases hMoved : moved? lowerRuns c with
      | some image =>
        rw [hMoved] at hd
        rw [List.mem_singleton.mp hd]
        obtain ⟨run, hRun, hCovers, rfl⟩ := exists_of_moved? hMoved
        obtain ⟨hPlain, hMisses⟩ := lowerRuns_table run hRun
        refine lowerChar_eq_self fun other hOther => ?_
        rw [Option.getD_some, toNat_image hPlain hCovers]
        exact CaseRun.not_covers_image hPlain (hMisses other hOther) hCovers
      | none =>
        rw [hMoved] at hd
        rw [List.mem_singleton.mp hd, Option.getD_none, lowerChar, if_neg hAscii, hWide, hMoved]
        rfl

-- ---------------------------------------------------------------------------
-- Texts
-- ---------------------------------------------------------------------------

/-- The capital sigma is not its own image. -/
theorem lowerChar_capitalSigma : lowerChar capitalSigma = ['σ'] := by
  rw [lowerChar, moved?, ← Array.find?_toList]
  decide +kernel

/-- Characters that are their own images make a text that is its own lower case. -/
theorem lowerAfter_eq_self {before text : List Char} (h : ∀ c ∈ text, lowerChar c = [c]) :
    lowerAfter before text = text := by
  induction text generalizing before with
  | nil => rfl
  | cons c rest ih =>
    have hHead := h c (List.mem_cons_self ..)
    have hSigma : c ≠ capitalSigma := by
      rintro rfl
      rw [lowerChar_capitalSigma] at hHead
      exact absurd hHead (by decide)
    rw [lowerAfter, if_neg hSigma, hHead, ih fun d hd => h d (List.mem_cons_of_mem _ hd)]
    rfl

theorem lowerChar_smallSigma (before after : List Char) :
    lowerChar (smallSigma before after) = [smallSigma before after] := by
  rw [smallSigma]
  split
  · exact lowerChar_of_mem_table (n := 'ς'.toNat) (by simp)
  · exact lowerChar_of_mem_table (n := 'σ'.toNat) (by simp)

theorem lowerChar_of_mem_lowerAfter {before text : List Char} :
    ∀ d ∈ lowerAfter before text, lowerChar d = [d] := by
  induction text generalizing before with
  | nil => intro d hd; cases hd
  | cons c rest ih =>
    intro d hd
    rw [lowerAfter, List.mem_append] at hd
    rcases hd with hHead | hRest
    · split at hHead
      · rw [List.mem_singleton.mp hHead]
        exact lowerChar_smallSigma before rest
      · exact lowerChar_fixed c d hHead
    · exact ih d hRest

/-- **Lower case is its own lower case.** -/
theorem lower_lower (text : List Char) : lower (lower text) = lower text :=
  lowerAfter_eq_self lowerChar_of_mem_lowerAfter

end Lexicon.Text
