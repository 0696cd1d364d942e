/-
This file shows where requests go. The path of a request stands below the address of a service as
long as the address has neither a query nor a fragment. It is written to the end of the text of the
address, so it becomes a part of the query or the fragment of an address that has one.
-/

import AssetSearch.Network.Address
import AssetSearch.Network.Endpoint
import Mathlib.Data.List.DropRight

namespace AssetSearch.Network

section Slashes

variable {goesOn isSlash : Char → Bool}

/-- Characters at the start can be dropped before or after the rest is cut off. -/
theorem takeWhile_dropWhile (slashGoesOn : ∀ character, isSlash character = true →
    goesOn character = true) (text : List Char) :
    (text.dropWhile isSlash).takeWhile goesOn = (text.takeWhile goesOn).dropWhile isSlash := by
  induction text with
  | nil => rfl
  | cons character rest inductionHypothesis =>
      by_cases slash : isSlash character = true
      · rw [List.dropWhile_cons_of_pos slash, List.takeWhile_cons_of_pos (slashGoesOn _ slash),
          List.dropWhile_cons_of_pos slash, inductionHypothesis]
      · rw [List.dropWhile_cons_of_neg slash]
        by_cases inside : goesOn character = true
        · rw [List.takeWhile_cons_of_pos inside, List.dropWhile_cons_of_neg slash]
        · rw [List.takeWhile_cons_of_neg inside, List.dropWhile_nil]

/-- What stands before another character is not dropped from the end. -/
theorem rdropWhile_behind (isSlash : Char → Bool) {mark : Char} (other : isSlash mark = false)
    (before after : List Char) :
    ∃ left, (before ++ mark :: after).rdropWhile isSlash = before ++ mark :: left := by
  induction after using List.reverseRecOn with
  | nil =>
      refine ⟨[], ?_⟩
      exact List.rdropWhile_concat_neg _ _ _ (by simp [other])
  | append_singleton after character inductionHypothesis =>
      rw [← List.cons_append, ← List.append_assoc]
      by_cases slash : isSlash character = true
      · rw [List.rdropWhile_concat_pos _ _ _ slash]
        exact inductionHypothesis
      · rw [List.rdropWhile_concat_neg _ _ _ slash]
        exact ⟨after ++ [character], by simp⟩

end Slashes

/-- A query begins at a question mark, and a fragment begins at a number sign. -/
def isDelimiter (character : Char) : Bool := character = '?' || character = '#'

/-- Neither a query nor a fragment begins in the text. -/
def HasNoDelimiter (text : String) : Prop :=
  ∀ character ∈ text.toList, isDelimiter character = false

instance (text : String) : Decidable (HasNoDelimiter text) :=
  List.decidableBAll _ text.toList

/-- The part of a text before its first question mark or number sign. -/
def placeOf (text : String) : String :=
  String.ofList (text.toList.takeWhile fun character => !isDelimiter character)

section Places

variable {before text : String} {mark : Char} {rest : List Char}

theorem HasNoDelimiter.placeOf_append (clean : HasNoDelimiter before) (after : String) :
    placeOf (before ++ after) = before ++ placeOf after := by
  rw [placeOf, placeOf, ← String.toList_inj, String.toList_append, String.toList_append,
    String.toList_ofList, String.toList_ofList]
  apply List.takeWhile_append_of_pos
  intro character inside
  rw [clean character inside]
  rfl

theorem HasNoDelimiter.placeOf_eq (clean : HasNoDelimiter text) : placeOf text = text := by
  have appended := clean.placeOf_append ""
  rwa [String.append_empty, show placeOf "" = "" from rfl, String.append_empty] at appended

theorem hasNoDelimiter_placeOf (text : String) : HasNoDelimiter (placeOf text) := by
  intro character inside
  rw [placeOf, String.toList_ofList] at inside
  simpa using List.mem_takeWhile_imp inside

theorem placeOf_atDelimiter (clean : HasNoDelimiter before) (delimiter : isDelimiter mark = true)
    (isText : text.toList = before.toList ++ mark :: rest) : placeOf text = before := by
  have whole : text = before ++ String.ofList (mark :: rest) := by
    rw [← String.toList_inj, isText, String.toList_append, String.toList_ofList]
  have nothing : placeOf (String.ofList (mark :: rest)) = "" := by
    rw [placeOf, String.toList_ofList, List.takeWhile_cons_of_neg (by simp [delimiter])]
  rw [whole, clean.placeOf_append, nothing, String.append_empty]

/-- The first delimiter stands behind the place. -/
theorem exists_delimiter (further : ¬ HasNoDelimiter text) :
    ∃ mark rest, isDelimiter mark = true ∧ text.toList = (placeOf text).toList ++ mark :: rest := by
  have split := List.takeWhile_append_dropWhile (p := fun character => !isDelimiter character)
    (l := text.toList)
  cases left : text.toList.dropWhile fun character => !isDelimiter character with
  | nil =>
      refine absurd ?_ further
      intro character inside
      simpa using List.dropWhile_eq_nil_iff.mp left character inside
  | cons mark rest =>
      have stops := List.head_dropWhile_not (fun character => !isDelimiter character)
        (l := text.toList) (by simp [left])
      refine ⟨mark, rest, ?_, ?_⟩
      · simpa [left] using stops
      · rw [placeOf, String.toList_ofList, ← left, split]

end Places

namespace ServiceSettings

/-- The place of the path stands below the place of the base. -/
def placeBelow (base path : String) : String :=
  dropSlashesAtEnd (placeOf base) ++ "/" ++ dropSlashesAtStart (placeOf path)

section

variable {base : String}

theorem hasNoDelimiter_dropSlashesAtEnd (clean : HasNoDelimiter base) :
    HasNoDelimiter (dropSlashesAtEnd base ++ "/") := by
  have kept : base.toList.rdropWhile (· == '/') ⊆ base.toList :=
    (List.rdropWhile_prefix _ _).subset
  intro character inside
  rw [String.toList_append, dropSlashesAtEnd, String.toList_ofList] at inside
  rcases List.mem_append.mp inside with among | slash
  · exact clean character (kept among)
  · obtain rfl : character = '/' := by simpa using slash
    rfl

theorem placeOf_dropSlashesAtStart (path : String) :
    placeOf (dropSlashesAtStart path) = dropSlashesAtStart (placeOf path) := by
  rw [placeOf, placeOf, dropSlashesAtStart, dropSlashesAtStart, String.toList_ofList,
    String.toList_ofList]
  congr 1
  apply takeWhile_dropWhile
  intro character slash
  rw [eq_of_beq slash]
  rfl

theorem placeOf_join_of_clean (clean : HasNoDelimiter base) (path : String) :
    placeOf (dropSlashesAtEnd base ++ "/" ++ dropSlashesAtStart path) = placeBelow base path := by
  rw [(hasNoDelimiter_dropSlashesAtEnd clean).placeOf_append, placeOf_dropSlashesAtStart,
    placeBelow, clean.placeOf_eq]

theorem placeOf_join_of_not_clean (further : ¬ HasNoDelimiter base) (path : String) :
    placeOf (dropSlashesAtEnd base ++ "/" ++ dropSlashesAtStart path) = placeOf base := by
  obtain ⟨mark, rest, delimiter, isBase⟩ := exists_delimiter further
  have other : (mark == '/') = false := by
    rw [beq_eq_false_iff_ne]
    rintro rfl
    cases delimiter
  obtain ⟨left, kept⟩ := rdropWhile_behind (· == '/') other (placeOf base).toList rest
  have isJoin : (dropSlashesAtEnd base ++ "/" ++ dropSlashesAtStart path).toList =
      (placeOf base).toList ++ mark :: (left ++ '/' :: (dropSlashesAtStart path).toList) := by
    have cut : (dropSlashesAtEnd base).toList = (placeOf base).toList ++ mark :: left := by
      rw [dropSlashesAtEnd, String.toList_ofList, isBase]
      exact kept
    simp [cut]
  exact placeOf_atDelimiter (hasNoDelimiter_placeOf base) delimiter isJoin

end

/-- What is dropped from the end are slashes, and what is left of a path begins with none. -/
theorem placeOf_eq_placeBelow_iff (base path : String) :
    placeOf base = placeBelow base path ↔
      placeOf base = dropSlashesAtEnd (placeOf base) ++ "/" ∧
        dropSlashesAtStart (placeOf path) = "" := by
  constructor
  · intro below
    have joined : (placeOf base).toList = (dropSlashesAtEnd (placeOf base)).toList ++
        '/' :: (dropSlashesAtStart (placeOf path)).toList := by
      conv_lhs => rw [below, placeBelow]
      simp
    have whole : (dropSlashesAtEnd (placeOf base)).toList ++
        (placeOf base).toList.rtakeWhile (· == '/') = (placeOf base).toList := by
      rw [dropSlashesAtEnd, String.toList_ofList]
      exact List.rdropWhile_append_rtakeWhile
    have dropped := List.append_cancel_left (whole.trans joined)
    have slash : ∀ character ∈ (placeOf path).toList.dropWhile (· == '/'),
        (character == '/') = true := by
      intro character inside
      have among : character ∈ (placeOf base).toList.rtakeWhile (· == '/') := by
        rw [dropped, dropSlashesAtStart, String.toList_ofList]
        exact List.mem_cons_of_mem _ inside
      exact List.mem_rtakeWhile_imp (p := (· == '/')) among
    have nothing : dropSlashesAtStart (placeOf path) = "" := by
      rw [dropSlashesAtStart, ← List.dropWhile_idempotent, List.dropWhile_eq_nil_iff.mpr slash]
    refine ⟨?_, nothing⟩
    rw [← String.toList_inj, joined, nothing]
    simp
  · rintro ⟨ending, nothing⟩
    rw [placeBelow, nothing, String.append_empty]
    exact ending

/-- A request goes to a place below the base if the base has neither a query nor a fragment. Any
other base is itself the place of all requests, which is where they should go only if the base ends
in a slash and the path adds nothing to it. This is so however addresses are read. -/
theorem placeOf_endpoint (settings : ServiceSettings) (path : String) :
    placeOf (settings.endpoint path) =
        (if HasNoDelimiter settings.baseUrl.text then placeBelow settings.baseUrl.text path
          else placeOf settings.baseUrl.text) ∧
      (placeOf (settings.endpoint path) = placeBelow settings.baseUrl.text path ↔
        HasNoDelimiter settings.baseUrl.text ∨
          (placeOf settings.baseUrl.text =
              dropSlashesAtEnd (placeOf settings.baseUrl.text) ++ "/" ∧
            dropSlashesAtStart (placeOf path) = "")) := by
  by_cases clean : HasNoDelimiter settings.baseUrl.text
  · rw [if_pos clean, endpoint, placeOf_join_of_clean clean]
    exact ⟨rfl, iff_of_true rfl (.inl clean)⟩
  · rw [if_neg clean, endpoint, placeOf_join_of_not_clean clean, placeOf_eq_placeBelow_iff]
    exact ⟨rfl, (or_iff_right clean).symm⟩

/-- The address of this service names a team in its query. -/
def queried : ServiceSettings where
  baseUrl :=
    { text := "http://search.local/meili?team=1"
      textWithoutUserinfo := "http://search.local/meili?team=1"
      scheme := "http"
      host := some "search.local"
      isBase := true }
  apiKey := none
  timeout := defaultTimeout
  retry := .default

theorem ofAddress_queried : ofAddress "http://search.local/meili?team=1" = .ok queried := by
  decide +kernel

/-- The path of the request has become a part of the query. -/
theorem placeOf_endpoint_queried :
    ofAddress "http://search.local/meili?team=1" = .ok queried ∧
      placeOf (queried.endpoint "/tasks") = "http://search.local/meili" := by
  have hasQuery : ¬ HasNoDelimiter queried.baseUrl.text := by decide +kernel
  have place := (placeOf_endpoint queried "/tasks").1
  rw [if_neg hasQuery] at place
  refine ⟨ofAddress_queried, place.trans ?_⟩
  decide +kernel

theorem endpoint_leavesBase :
    ¬ ∀ (address : String) (settings : ServiceSettings) (path : String),
      ofAddress address = .ok settings → path.toList.head? = some '/' →
      placeOf (settings.endpoint path) = placeBelow settings.baseUrl.text path := by
  intro below
  have refuted :
      placeOf (queried.endpoint "/tasks") ≠ placeBelow queried.baseUrl.text "/tasks" := by
    decide +kernel
  exact refuted (below _ queried "/tasks" ofAddress_queried rfl)

end ServiceSettings

end AssetSearch.Network
