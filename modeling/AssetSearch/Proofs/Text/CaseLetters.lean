/-
This file shows what a change of letter case makes of letters and digits. They become letters and
digits again, except that the capitals of some letters, and the small form of one, are written with
a mark that is neither.
-/

import AssetSearch.Proofs.Text.CaseImages
import Mathlib.Data.List.Chain
import Mathlib.Data.List.TakeWhile

namespace AssetSearch.Text

namespace Intervals

/-- The first interval is not empty and ends before the second one begins. -/
def Precedes (interval other : Nat × Nat) : Prop :=
  interval.1 ≤ interval.2 ∧ interval.2 < other.1

instance (interval other : Nat × Nat) : Decidable (Precedes interval other) :=
  inferInstanceAs (Decidable (_ ∧ _))

/-- The code point lies in one of the intervals. -/
def Holds (intervals : Intervals) (codePoint : Nat) : Prop :=
  ∃ interval ∈ intervals, interval.1 ≤ codePoint ∧ codePoint ≤ interval.2

/-- In intervals that increase the search finds what they hold. -/
theorem Holds.contains {intervals : Intervals} {codePoint : Nat}
    (increasing : intervals.IsChain Precedes) (holds : intervals.Holds codePoint) :
    intervals.contains codePoint = true := by
  have transitive : Trans Precedes Precedes Precedes := by
    refine ⟨?_⟩
    rintro first second third ⟨filled, before⟩ ⟨alsoFilled, after⟩
    exact ⟨filled, by omega⟩
  rw [List.isChain_iff_pairwise] at increasing
  induction intervals with
  | nil =>
      obtain ⟨_, inside, -⟩ := holds
      cases inside
  | cons head later inductionHypothesis =>
      obtain ⟨before, others⟩ := List.pairwise_cons.mp increasing
      obtain ⟨interval, inside, lower, upper⟩ := holds
      obtain ⟨first, last⟩ := head
      rw [Intervals.contains]
      rcases List.mem_cons.mp inside with rfl | further
      · rw [if_neg (Nat.not_lt.mpr lower), if_pos upper]
      · obtain ⟨ordered, apart⟩ := before interval further
        simp only at ordered apart
        rw [if_neg (by omega), if_neg (by omega)]
        exact inductionHypothesis others ⟨interval, further, lower, upper⟩

/-- Intervals are taken off the front of the list as long as the given one covers them. -/
def uncovered (intervals covering : Intervals) : Intervals :=
  covering.foldl (fun left outer =>
    left.dropWhile fun inner => Nat.ble outer.1 inner.1 && Nat.ble inner.2 outer.2) intervals

theorem holds_of_uncovered {intervals covering : Intervals}
    (none : uncovered intervals covering = [])
    {codePoint : Nat} (holds : intervals.Holds codePoint) : covering.Holds codePoint := by
  induction covering generalizing intervals with
  | nil =>
      rw [uncovered, List.foldl_nil] at none
      rw [none] at holds
      exact holds
  | cons outer later inductionHypothesis =>
      obtain ⟨inner, inside, lower, upper⟩ := holds
      rw [← List.takeWhile_append_dropWhile
        (p := fun inner => Nat.ble outer.1 inner.1 && Nat.ble inner.2 outer.2) (l := intervals)]
        at inside
      rcases List.mem_append.mp inside with covered | left
      · have bounds := List.mem_takeWhile_imp covered
        simp only [Bool.and_eq_true, Nat.ble_eq] at bounds
        exact ⟨outer, List.mem_cons_self, by omega, by omega⟩
      · obtain ⟨interval, member, bounds⟩ := inductionHypothesis none ⟨inner, left, lower, upper⟩
        exact ⟨interval, List.mem_cons_of_mem outer member, bounds⟩

end Intervals

/-- Code points with a letter case are letters. The tables of case mappings are compared with these
code points only, which are far fewer. -/
theorem isAlphanumeric_ofCased {character : Char} (cased : casedIntervals.Holds character.toNat) :
    isAlphanumeric character = true := by
  have increasing : alphanumericIntervals.IsChain Intervals.Precedes := by decide +kernel
  have covered : Intervals.uncovered casedIntervals alphanumericIntervals = [] := by decide +kernel
  exact (Intervals.holds_of_uncovered covered cased).contains increasing

namespace CaseRun

/-- The run maps one of its code points to this one. -/
def Reaches (run : CaseRun) (codePoint : Nat) : Prop :=
  ∃ offset, run.first + offset ≤ run.last ∧
    offset % run.step = 0 ∧ codePoint = (run.first + offset + run.distance).toNat

theorem image_reached (codePoint : Nat) (runs : List CaseRun) :
    image codePoint runs = codePoint ∨ ∃ run ∈ runs, run.Reaches (image codePoint runs) := by
  induction runs with
  | nil => exact Or.inl rfl
  | cons run later inductionHypothesis =>
      rw [image]
      split
      · exact Or.inl rfl
      · next notBefore =>
          split
          · next notAfter =>
              split
              · next mapped =>
                  refine Or.inr ⟨run, List.mem_cons_self, codePoint - run.first, ?_, mapped, ?_⟩
                  · omega
                  · congr 1
                    omega
              · exact Or.inl rfl
          · refine inductionHypothesis.imp_right ?_
            rintro ⟨other, inside, reached⟩
            exact ⟨other, List.mem_cons_of_mem run inside, reached⟩

/-- One of the intervals holds the whole run, or else each image is looked for. -/
def landsIn (intervals : Intervals) (run : CaseRun) : Bool :=
  (intervals.any fun interval =>
    Nat.ble interval.1 (run.first + run.distance).toNat &&
      Nat.ble (run.last + run.distance).toNat interval.2) ||
    (List.range (run.last - run.first + 1)).all fun offset =>
      offset % run.step != 0 || intervals.any fun interval =>
        Nat.ble interval.1 (run.first + offset + run.distance).toNat &&
          Nat.ble (run.first + offset + run.distance).toNat interval.2

theorem Reaches.holds {intervals : Intervals} {run : CaseRun} {codePoint : Nat}
    (reached : run.Reaches codePoint) (lands : landsIn intervals run = true) :
    intervals.Holds codePoint := by
  obtain ⟨offset, small, mapped, rfl⟩ := reached
  simp only [landsIn, Bool.or_eq_true, List.any_eq_true, List.all_eq_true, Bool.and_eq_true,
    Nat.ble_eq, List.mem_range, bne_iff_ne] at lands
  rcases lands with ⟨interval, inside, lower, upper⟩ | each
  · exact ⟨interval, inside, by omega, by omega⟩
  · rcases each offset (by omega) with skipped | ⟨interval, inside, bounds⟩
    · exact absurd mapped skipped
    · exact ⟨interval, inside, bounds⟩

end CaseRun

theorem isValidChar_ofCased {codePoint : Nat} (cased : casedIntervals.Holds codePoint) :
    codePoint.isValidChar := by
  have valid : ∀ interval ∈ casedIntervals,
      interval.2 < 0xD800 ∨ 0xDFFF < interval.1 ∧ interval.2 < 0x110000 := by
    decide +kernel
  obtain ⟨interval, inside, lower, upper⟩ := cased
  have bounds := valid interval inside
  rw [Nat.isValidChar]
  omega

/-- These are the ways in which a character gets its image. -/
inductive IsImage (runs : List CaseRun) (expansions : List (Nat × List Nat)) (character : Char) :
    List Char → Prop
  | expanded {codePoints : List Nat} (found : expansions.lookup character.toNat = some codePoints) :
      IsImage runs expansions character (codePoints.map Char.ofNat)
  | kept (notFound : expansions.lookup character.toNat = none) :
      IsImage runs expansions character [character]
  | mapped {run : CaseRun} {image : Char} (notFound : expansions.lookup character.toNat = none)
      (inside : run ∈ runs) (reached : run.Reaches image.toNat) :
      IsImage runs expansions character [image]

theorem isImage_caseImage {runs : List CaseRun}
    (lands : ∀ run ∈ runs, run.landsIn casedIntervals = true)
    (expansions : List (Nat × List Nat)) (character : Char) :
    IsImage runs expansions character (caseImage runs expansions character) := by
  rw [caseImage]
  split
  · next found => exact .expanded found
  · next notFound =>
      rcases CaseRun.image_reached character.toNat runs with same | ⟨run, inside, reached⟩
      · rw [same, Char.ofNat_toNat]
        exact .kept notFound
      · have valid := isValidChar_ofCased (reached.holds (lands run inside))
        refine .mapped notFound inside ?_
        rwa [Char.ofNat, dif_pos valid]

/-- Images of letters may hold these marks, which are no letters themselves. -/
def caseMarks : List Char :=
  ['\u0300', '\u0301', '\u0307', '\u0308', '\u030A', '\u030C', '\u0313', '\u0331', '\u0342']

theorem not_mem_caseMarks {character : Char} (alphanumeric : isAlphanumeric character = true) :
    character ∉ caseMarks := by
  have none : caseMarks.all (!isAlphanumeric ·) = true := by decide +kernel
  intro isMark
  have other := List.all_eq_true.mp none character isMark
  rw [alphanumeric] at other
  cases other

/-- The capitals of these letters are written with a mark. -/
def markedWhenRaised : List Char := [
  '\u01F0', '\u0390', '\u03B0', '\u1E96', '\u1E97', '\u1E98', '\u1E99', '\u1F50', '\u1F52',
  '\u1F54', '\u1F56', '\u1FB6', '\u1FB7', '\u1FC6', '\u1FC7', '\u1FD2', '\u1FD3', '\u1FD6',
  '\u1FD7', '\u1FE2', '\u1FE3', '\u1FE4', '\u1FE6', '\u1FE7', '\u1FF6', '\u1FF7']

/-- Letters and digits keep to letters, digits and marks, and only some of them get a mark. -/
structure MarksOnly (runs : List CaseRun) (expansions : List (Nat × List Nat))
    (marked : List Char) : Prop where
  lands : ∀ run ∈ runs, run.landsIn casedIntervals = true
  letters : ∀ expansion ∈ expansions, ∀ codePoint ∈ expansion.2,
    isAlphanumeric (Char.ofNat codePoint) = true ∨ Char.ofNat codePoint ∈ caseMarks
  spelled : ∀ expansion ∈ expansions,
    (∃ codePoint ∈ expansion.2, Char.ofNat codePoint ∈ caseMarks) ↔
      Char.ofNat expansion.1 ∈ marked
  expanded : marked.all (fun character => (expansions.lookup character.toNat).isSome) = true

namespace MarksOnly

variable {runs : List CaseRun} {expansions : List (Nat × List Nat)} {marked : List Char}
  {character : Char}

theorem isAlphanumeric_or_mem (marks : MarksOnly runs expansions marked)
    (alphanumeric : isAlphanumeric character = true) :
    ∀ image ∈ caseImage runs expansions character,
      isAlphanumeric image = true ∨ image ∈ caseMarks := by
  intro image inside
  have way := isImage_caseImage marks.lands expansions character
  generalize caseImage runs expansions character = images at way inside
  cases way with
  | expanded found =>
      obtain ⟨codePoint, member, rfl⟩ := List.mem_map.mp inside
      exact marks.letters _ (mem_of_lookup found) codePoint member
  | kept notFound =>
      rw [List.mem_singleton.mp inside]
      exact Or.inl alphanumeric
  | mapped notFound member reached =>
      rw [List.mem_singleton.mp inside]
      exact Or.inl (isAlphanumeric_ofCased (reached.holds (marks.lands _ member)))

theorem exists_mark_iff (marks : MarksOnly runs expansions marked)
    (alphanumeric : isAlphanumeric character = true) :
    (∃ mark ∈ caseImage runs expansions character, mark ∈ caseMarks) ↔ character ∈ marked := by
  have single {image : Char} (notFound : expansions.lookup character.toNat = none)
      (letter : isAlphanumeric image = true) :
      (∃ mark ∈ [image], mark ∈ caseMarks) ↔ character ∈ marked := by
    refine iff_of_false ?_ fun inside => ?_
    · rintro ⟨mark, inside, isMark⟩
      rw [List.mem_singleton.mp inside] at isMark
      exact not_mem_caseMarks letter isMark
    · have expanded := List.all_eq_true.mp marks.expanded character inside
      rw [notFound] at expanded
      cases expanded
  have way := isImage_caseImage marks.lands expansions character
  generalize caseImage runs expansions character = images at way ⊢
  cases way with
  | expanded found =>
      have spelled := marks.spelled _ (mem_of_lookup found)
      rw [Char.ofNat_toNat] at spelled
      rw [← spelled]
      simp only [List.mem_map, exists_exists_and_eq_and]
  | kept notFound => exact single notFound alphanumeric
  | mapped notFound member reached =>
      exact single notFound (isAlphanumeric_ofCased (reached.holds (marks.lands _ member)))

end MarksOnly

theorem lowerOf_marksOnly : MarksOnly lowerRuns lowerExpansions ['İ'] :=
  ⟨by decide +kernel, by decide +kernel, by decide +kernel, by decide +kernel⟩

theorem upperOf_marksOnly : MarksOnly upperRuns upperExpansions markedWhenRaised :=
  ⟨by decide +kernel, by decide +kernel, by decide +kernel, by decide +kernel⟩

section

variable {word : List Char}

theorem lowerAfter_isAlphanumeric_or_mem
    (letters : ∀ character ∈ word, isAlphanumeric character = true) (reversedContext : List Char) :
    ∀ image ∈ lowerAfter reversedContext word,
      isAlphanumeric image = true ∨ image ∈ caseMarks := by
  induction word generalizing reversedContext with
  | nil => simp [lowerAfter]
  | cons character rest inductionHypothesis =>
      obtain ⟨letter, others⟩ := List.forall_mem_cons.mp letters
      obtain ⟨images, split, shape⟩ := lowerAfter_cons reversedContext character rest
      rw [split, List.forall_mem_append]
      refine ⟨?_, inductionHypothesis others _⟩
      rcases shape with rfl | ⟨rfl, rfl⟩
      · exact lowerOf_marksOnly.isAlphanumeric_or_mem letter
      · exact List.forall_mem_singleton.mpr (Or.inl (by decide +kernel))

theorem exists_mark_lowerAfter_iff
    (letters : ∀ character ∈ word, isAlphanumeric character = true) (reversedContext : List Char) :
    (∃ mark ∈ lowerAfter reversedContext word, mark ∈ caseMarks) ↔ 'İ' ∈ word := by
  induction word generalizing reversedContext with
  | nil => simp [lowerAfter]
  | cons character rest inductionHypothesis =>
      obtain ⟨letter, others⟩ := List.forall_mem_cons.mp letters
      obtain ⟨images, split, shape⟩ := lowerAfter_cons reversedContext character rest
      have first : (∃ mark ∈ images, mark ∈ caseMarks) ↔ 'İ' = character := by
        rcases shape with rfl | ⟨rfl, rfl⟩
        · rw [eq_comm, ← List.mem_singleton]
          exact lowerOf_marksOnly.exists_mark_iff letter
        · simp only [List.mem_singleton, exists_eq_left]
          decide +kernel
      rw [split, List.mem_cons, ← inductionHypothesis others (character :: reversedContext),
        ← first]
      simp only [List.mem_append, or_and_right, exists_or]

end

namespace CaseRun

/-- The code point lies off the images of the run, or between two of them. -/
def LeavesOut (codePoint : Nat) (run : CaseRun) : Prop :=
  codePoint < run.first + run.distance ∨ run.last + run.distance < codePoint ∨
    (codePoint - (run.first + run.distance)) % run.step ≠ 0

instance (codePoint : Nat) (run : CaseRun) : Decidable (LeavesOut codePoint run) :=
  inferInstanceAs (Decidable (_ ∨ _ ∨ _))

theorem Reaches.not_leavesOut {run : CaseRun} {codePoint : Nat} (reached : run.Reaches codePoint)
    (positive : 0 < codePoint) : ¬ LeavesOut codePoint run := by
  obtain ⟨offset, small, mapped, image⟩ := reached
  have divided : (offset : Int) % run.step = 0 := by exact_mod_cast mapped
  have same : (codePoint - (run.first + run.distance) : Int) = offset := by omega
  rw [LeavesOut, same]
  omega

end CaseRun

/-- Only these letters themselves become one of them in lower case. -/
theorem lowerOf_markedWhenRaised {character : Char}
    (alphanumeric : isAlphanumeric character = true) :
    ∃ first others, lowerOf character = first :: others ∧ isAlphanumeric first = true ∧
      (first ∈ markedWhenRaised ↔ character ∈ markedWhenRaised) := by
  have way : IsImage lowerRuns lowerExpansions character (lowerOf character) :=
    isImage_caseImage lowerOf_marksOnly.lands lowerExpansions character
  generalize given : lowerOf character = images at way ⊢
  cases way with
  | expanded found =>
      obtain ⟨same, rfl⟩ := Prod.mk.inj (List.mem_singleton.mp (mem_of_lookup found))
      obtain rfl : character = 'İ' := Char.toNat_inj.mp same
      exact ⟨'i', ['\u0307'], by decide +kernel⟩
  | kept notFound => exact ⟨character, [], rfl, alphanumeric, Iff.rfl⟩
  | @mapped run image notFound inside reached =>
      -- One of the letters is no image of another character, and it is its own image.
      have leftOut : ∀ run ∈ lowerRuns, markedWhenRaised.all
          (fun letter => 0 < letter.toNat ∧ run.LeavesOut letter.toNat) = true := by
        decide +kernel
      have fixed : markedWhenRaised.all (fun letter => lowerOf letter = [letter]) = true := by
        decide +kernel
      have letter := isAlphanumeric_ofCased (reached.holds (lowerOf_marksOnly.lands run inside))
      refine ⟨image, [], rfl, letter, ?_, ?_⟩
      · intro marked
        obtain ⟨positive, outside⟩ :=
          of_decide_eq_true (List.all_eq_true.mp (leftOut run inside) image marked)
        exact absurd outside (reached.not_leavesOut positive)
      · intro marked
        have same := of_decide_eq_true (List.all_eq_true.mp fixed character marked)
        obtain rfl := List.singleton_inj.mp (given.symm.trans same)
        exact marked

/-- The first letter of a word stays one, and it stays the same if its capital has a mark. -/
theorem exists_head_lowerCase {word : List Char} (filled : word ≠ [])
    (letters : ∀ character ∈ word, isAlphanumeric character = true) :
    ∃ first others, lowerCase word = first :: others ∧ isAlphanumeric first = true ∧
      (first ∈ markedWhenRaised ↔ ∃ letter ∈ word.head?, letter ∈ markedWhenRaised) := by
  obtain ⟨character, rest, rfl⟩ := List.exists_cons_of_ne_nil filled
  obtain ⟨images, split, shape⟩ := lowerAfter_cons [] character rest
  rw [lowerCase, split]
  simp only [List.head?_cons, Option.mem_some, exists_eq_left']
  rcases shape with rfl | ⟨rfl, rfl⟩
  · obtain ⟨first, others, image, letter, marked⟩ :=
      lowerOf_markedWhenRaised (letters character List.mem_cons_self)
    rw [image]
    exact ⟨first, _, rfl, letter, marked⟩
  · exact ⟨'ς', _, rfl, by decide +kernel⟩

end AssetSearch.Text
