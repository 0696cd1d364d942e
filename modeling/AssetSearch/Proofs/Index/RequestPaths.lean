/-
This file shows that the names of indexes survive the paths of requests, whatever characters they
consist of. The names and the limit of a listing can be read off its path, and the path of every
other operation names one index.
-/

import AssetSearch.Index.Remote
import AssetSearch.Proofs.Json.Integers
import AssetSearch.Proofs.Network.PercentCodes
import AssetSearch.Proofs.Text.Marks

namespace AssetSearch.Index.Remote

open AssetSearch.Json
open AssetSearch.Network
open AssetSearch.Text

/-- An equals sign separates the name of a parameter from its value. -/
def readParameter (text : List Char) : String × String :=
  (String.ofList (text.takeWhile (· != '=')), String.ofList ((text.dropWhile (· != '=')).drop 1))

/-- The parameters stand behind the first question mark, and ampersands separate them. -/
def parameters (path : String) : List (String × String) :=
  (((path.toList.dropWhile (· != '?')).drop 1).splitOn '&').map readParameter

def parameter? (path name : String) : Option String := (parameters path).lookup name

/-- Commas separate the names, and each of them is decoded. -/
def readNames? (value : String) : Option (List String) :=
  (value.toList.splitOn ',').mapM decodedText?

/-- Whoever reads this path learns which indexes are listed and how many tasks at most. -/
structure AsksFor (path : String) (indexes : List String) (limit : Nat) : Prop where
  place : path.toList.takeWhile (· != '?') = "/tasks".toList
  once : ((parameters path).map Prod.fst).Nodup
  limit : parameter? path "limit" = some (toString limit)
  namesNone_iff : parameter? path "indexUids" = none ↔ indexes = []
  names : ∀ value, parameter? path "indexUids" = some value → readNames? value = some indexes

/-- One segment of this path is the encoded name of the index. -/
def NamesIndex (path index operation : String) : Prop :=
  ∃ name : String, path = "/indexes/" ++ name ++ "/" ++ operation ∧
    (∀ delimiter ∈ ['/', '?', '#'], delimiter ∉ name.toList) ∧
      decodedText? name.toList = some index

section

variable {index : String} {indexes : List String} {limit : Nat} {delimiter : Char}
  {name value rest : List Char}

theorem decodedText?_encodeComponent (index : String) :
    decodedText? (encodeComponent index).toList = some index := by
  rw [encodeComponent, String.toList_ofList]
  exact decodedText?_percentEncode rfl index

theorem not_mem_encodeComponent (reserved : isUnreserved delimiter = false)
    (noCode : isCodeCharacter delimiter = false) :
    delimiter ∉ (encodeComponent index).toList := by
  rw [encodeComponent, String.toList_ofList]
  exact not_mem_percentEncode (by simp [reserved]) noCode

/-- The names of a listing as one text. -/
def namesText (indexes : List String) : String :=
  String.intercalate "," (indexes.map encodeComponent)

theorem namesText_toList (indexes : List String) :
    (namesText indexes).toList =
      List.intercalate [','] (indexes.map fun index => (encodeComponent index).toList) := by
  rw [namesText, String.toList_intercalate, List.map_map]
  rfl

theorem not_mem_names (reserved : isUnreserved delimiter = false)
    (noCode : isCodeCharacter delimiter = false) :
    ∀ part ∈ indexes.map fun index => (encodeComponent index).toList, delimiter ∉ part := by
  intro part among
  obtain ⟨index, -, rfl⟩ := List.mem_map.mp among
  exact not_mem_encodeComponent reserved noCode

theorem decoded_names (indexes : List String) :
    (indexes.map fun index => (encodeComponent index).toList).mapM decodedText? = some indexes := by
  induction indexes with
  | nil => rfl
  | cons index later inductionHypothesis =>
      rw [List.map_cons, List.mapM_cons, decodedText?_encodeComponent, inductionHypothesis]
      rfl

theorem readNames?_namesText (nonempty : indexes ≠ []) :
    readNames? (namesText indexes) = some indexes := by
  have apart : ∀ part ∈ indexes.map fun index => (encodeComponent index).toList, ',' ∉ part :=
    not_mem_names (by decide) (by decide)
  rw [readNames?, namesText_toList,
    List.splitOn_intercalate _ apart (by simpa using nonempty), decoded_names]

/-- A listing of no indexes names none. -/
theorem tasksPath_toList (indexes : List String) (limit : Nat) :
    (tasksPath indexes limit).toList =
      "/tasks".toList ++ '?' :: (("limit".toList ++ '=' :: (toString limit).toList) ++
        if indexes = [] then []
        else '&' :: ("indexUids".toList ++ '=' :: (namesText indexes).toList)) := by
  rw [tasksPath]
  cases indexes with
  | nil => simp
  | cons first later => simp [namesText]

theorem readParameter_text (absent : '=' ∉ name) :
    readParameter (name ++ '=' :: value) = (String.ofList name, String.ofList value) := by
  rw [readParameter, (stops_atMark absent).takeWhile_eq, (stops_atMark absent).dropWhile_eq]
  rfl

theorem not_mem_limitText (limit : Nat) :
    '&' ∉ "limit".toList ++ '=' :: (toString limit).toList := by
  have digits : '&' ∉ Nat.toDigits 10 limit :=
    fun inside => absurd (isDigit_of_mem_decimal limit '&' inside) (by decide)
  simpa using digits

theorem not_mem_namesText (indexes : List String) : '&' ∉ (namesText indexes).toList := by
  intro inside
  rw [namesText_toList] at inside
  obtain comma | ⟨part, among, inPart⟩ := mem_intercalate inside
  · exact absurd comma (by decide)
  · exact not_mem_names (by decide) (by decide) part among inPart

theorem parameters_tasksPath (indexes : List String) (limit : Nat) :
    parameters (tasksPath indexes limit) =
      ("limit", toString limit) ::
        if indexes = [] then [] else [("indexUids", namesText indexes)] := by
  have onlyOnce : '?' ∉ "/tasks".toList := by decide
  have limitRead : readParameter ("limit".toList ++ '=' :: (toString limit).toList) =
      ("limit", toString limit) := by
    rw [readParameter_text (by decide), String.ofList_toList, String.ofList_toList]
  rw [parameters, tasksPath_toList, (stops_atMark onlyOnce).dropWhile_eq, List.drop_one,
    List.tail_cons]
  by_cases empty : indexes = []
  · rw [if_pos empty, if_pos empty, List.append_nil,
      List.splitOn_eq_singleton (not_mem_limitText limit), List.map_singleton, limitRead]
  · have namesRead : readParameter ("indexUids".toList ++ '=' :: (namesText indexes).toList) =
        ("indexUids", namesText indexes) := by
      rw [readParameter_text (by decide), String.ofList_toList, String.ofList_toList]
    have noMark : '&' ∉ "indexUids".toList ++ '=' :: (namesText indexes).toList := by
      simpa using not_mem_namesText indexes
    rw [if_neg empty, if_neg empty,
      List.splitOn_append_cons_self_of_not_mem (not_mem_limitText limit),
      List.splitOn_eq_singleton noMark, List.map_cons, List.map_singleton, limitRead, namesRead]

theorem parameter?_limit (indexes : List String) (limit : Nat) :
    parameter? (tasksPath indexes limit) "limit" = some (toString limit) := by
  rw [parameter?, parameters_tasksPath, List.lookup_cons_self]

theorem parameter?_names (indexes : List String) (limit : Nat) :
    parameter? (tasksPath indexes limit) "indexUids" =
      if indexes = [] then none else some (namesText indexes) := by
  have other : ("indexUids" == "limit") = false := by decide
  rw [parameter?, parameters_tasksPath, List.lookup_cons, other]
  by_cases empty : indexes = []
  · rw [if_pos empty, if_pos empty]
    rfl
  · rw [if_neg empty, if_neg empty]
    exact List.lookup_cons_self

theorem tasksPath_asksFor (indexes : List String) (limit : Nat) :
    AsksFor (tasksPath indexes limit) indexes limit where
  place := by
    rw [tasksPath_toList, (stops_atMark (by decide)).takeWhile_eq]
  once := by
    rw [parameters_tasksPath]
    split <;> simp
  limit := parameter?_limit indexes limit
  namesNone_iff := by
    rw [parameter?_names]
    split <;> simp_all
  names := by
    intro value given
    rw [parameter?_names] at given
    by_cases empty : indexes = []
    · simp [empty] at given
    · rw [if_neg empty, Option.some.injEq] at given
      rw [← given, readNames?_namesText empty]

theorem indexPath_namesIndex (index operation : String) :
    NamesIndex (indexPath index operation) index operation := by
  refine ⟨encodeComponent index, rfl, ?_, decodedText?_encodeComponent index⟩
  intro delimiter among
  obtain rfl | rfl | rfl : delimiter = '/' ∨ delimiter = '?' ∨ delimiter = '#' := by
    simpa using among
  all_goals exact not_mem_encodeComponent (by decide) (by decide)

variable {path other operation otherOperation : String} {others : List String} {otherLimit : Nat}

/-- A path asks for one listing only. -/
theorem AsksFor.unique (asks : AsksFor path indexes limit)
    (alsoAsks : AsksFor path others otherLimit) : indexes = others ∧ limit = otherLimit := by
  have sameLimit : limit = otherLimit := by
    have same : limit.repr = otherLimit.repr :=
      Option.some.inj (asks.limit.symm.trans alsoAsks.limit)
    have sameDigits : Nat.toDigits 10 limit = Nat.toDigits 10 otherLimit := by
      rw [← Nat.toList_repr, same, Nat.toList_repr]
    calc limit
        = Nat.ofDigitChars 10 (Nat.toDigits 10 limit) 0 := Nat.ofDigitChars_ten_toDigits.symm
      _ = Nat.ofDigitChars 10 (Nat.toDigits 10 otherLimit) 0 := by rw [sameDigits]
      _ = otherLimit := Nat.ofDigitChars_ten_toDigits
  refine ⟨?_, sameLimit⟩
  cases given : parameter? path "indexUids" with
  | none => rw [asks.namesNone_iff.mp given, alsoAsks.namesNone_iff.mp given]
  | some value =>
      exact Option.some.inj ((asks.names value given).symm.trans (alsoAsks.names value given))

/-- The name of the index ends at the slash before the operation. -/
theorem NamesIndex.unique (names : NamesIndex path index operation)
    (alsoNames : NamesIndex path other otherOperation) :
    index = other ∧ operation = otherOperation := by
  obtain ⟨name, rfl, noDelimiter, decoded⟩ := names
  obtain ⟨otherName, same, noOther, otherDecoded⟩ := alsoNames
  have characters := congrArg String.toList same
  simp only [String.toList_append, List.append_assoc] at characters
  have inner : name.toList ++ '/' :: operation.toList =
      otherName.toList ++ '/' :: otherOperation.toList := List.append_cancel_left characters
  have stops : Stops (· != '/') name.toList ('/' :: operation.toList) :=
    stops_atMark (noDelimiter '/' List.mem_cons_self)
  have alsoStops : Stops (· != '/') otherName.toList ('/' :: otherOperation.toList) :=
    stops_atMark (noOther '/' List.mem_cons_self)
  have sameName : name.toList = otherName.toList := by
    rw [← stops.takeWhile_eq, inner, alsoStops.takeWhile_eq]
  rw [sameName] at inner decoded
  exact ⟨Option.some.inj (decoded.symm.trans otherDecoded),
    String.toList_inj.mp (List.cons.inj (List.append_cancel_left inner)).2⟩

end

/-- Names of any characters reach the service: everything that a path was made of can be read off
it, so that different requests have different paths. These are the paths that the calls of the
service are sent to. -/
theorem requestPaths_keepNames :
    (∀ indexes limit, AsksFor (tasksPath indexes limit) indexes limit) ∧
      (∀ index operation, NamesIndex (indexPath index operation) index operation) ∧
      (∀ indexes limit others otherLimit,
        tasksPath indexes limit = tasksPath others otherLimit ↔
          indexes = others ∧ limit = otherLimit) ∧
      (∀ index operation other otherOperation,
        indexPath index operation = indexPath other otherOperation ↔
          index = other ∧ operation = otherOperation) ∧
      ∀ (Effect : Type → Type) [Monad Effect] [UrlParser] (client : Client Effect),
        (∀ indexes limit, (service client).listTasks indexes limit =
          client.send .get (tasksPath indexes limit) none TaskPage.decode) ∧
        (∀ index attributes, (service client).updateAttributes index attributes =
          client.send .patch (indexPath index "settings") (some (attributesBody attributes))
            TaskSummary.decode) ∧
        ∀ index query limit, (service client).search index query limit =
          client.send .post (indexPath index "search") (some (searchBody query limit))
            SearchResponse.decode := by
  refine ⟨tasksPath_asksFor, indexPath_namesIndex, ?_, ?_,
    fun _ _ _ _ => ⟨fun _ _ => rfl, fun _ _ => rfl, fun _ _ _ => rfl⟩⟩
  · intro indexes limit others otherLimit
    constructor
    · intro same
      exact (tasksPath_asksFor indexes limit).unique (same ▸ tasksPath_asksFor others otherLimit)
    · rintro ⟨rfl, rfl⟩
      rfl
  · intro index operation other otherOperation
    constructor
    · intro same
      exact (indexPath_namesIndex index operation).unique
        (same ▸ indexPath_namesIndex other otherOperation)
    · rintro ⟨rfl, rfl⟩
      rfl

/-- Commas, slashes, percent signs and characters of several bytes are encoded. -/
example : tasksPath ["a,b", "ü/50%"] 20 = "/tasks?limit=20&indexUids=a%2Cb,%C3%BC%2F50%25" := by
  decide +kernel

end AssetSearch.Index.Remote
