/-
This file shows that no wait for a stop misses a request, however the steps of the parties are
interleaved. A request is two steps, of which the second one wakes the waits that are registered,
and a wait registers before it looks for a request.
-/

import AssetSearch.Cancellation
import Mathlib.Logic.Relation

namespace AssetSearch.Cancellation

namespace Registry

def isRequested (registry : Registry) (family : Nat) : Bool :=
  registry.requests.getD family false

/-- No token is of a family that was never created. -/
def FamiliesExist (registry : Registry) : Prop :=
  ∀ member ∈ registry.tokens, member.2 < registry.requests.length

variable {registry : Registry} {token : String} {family other : Nat}

theorem isCancelled_eq_isRequested (held : registry.family? token = some family) :
    registry.isCancelled token = registry.isRequested family := by
  rw [isCancelled, held]
  rfl

theorem FamiliesExist.lt_length (exist : registry.FamiliesExist)
    (held : registry.family? token = some family) : family < registry.requests.length := by
  obtain ⟨before, after, split, -⟩ := List.lookup_eq_some_iff.mp held
  exact exist (token, family) (by simp [split])

theorem FamiliesExist.bind (exist : registry.FamiliesExist)
    (created : family < registry.requests.length) :
    (registry.bind token family).FamiliesExist := by
  intro member inside
  rcases List.mem_cons.mp inside with rfl | kept
  · exact created
  · exact exist member (List.mem_filter.mp kept).1

theorem FamiliesExist.create (exist : registry.FamiliesExist) (token : String) :
    (registry.create token).FamiliesExist := by
  refine FamiliesExist.bind ?_ (by simp)
  intro member inside
  have := exist member inside
  simp only [List.length_append, List.length_singleton]
  omega

theorem FamiliesExist.copy (exist : registry.FamiliesExist) (source token : String) :
    (registry.copy source token).FamiliesExist := by
  rw [Registry.copy]
  cases held : registry.family? source with
  | some family => exact exist.bind (exist.lt_length held)
  | none => exact exist

theorem FamiliesExist.drop (exist : registry.FamiliesExist) (token : String) :
    (registry.drop token).FamiliesExist :=
  fun member inside => exist member (List.mem_filter.mp inside).1

theorem FamiliesExist.cancel (exist : registry.FamiliesExist) (token : String) :
    (registry.cancel token).FamiliesExist := by
  rw [Registry.cancel]
  cases registry.family? token with
  | some family =>
      intro member inside
      rw [List.length_set]
      exact exist member inside
  | none => exact exist

/-- Nobody has asked a new family to stop. -/
theorem isRequested_create (registry : Registry) (token : String) (family : Nat) :
    (registry.create token).isRequested family = registry.isRequested family := by
  simp only [isRequested, create, bind]
  grind

theorem isRequested_copy (registry : Registry) (source token : String) (family : Nat) :
    (registry.copy source token).isRequested family = registry.isRequested family := by
  rw [copy]
  cases registry.family? source <;> rfl

theorem isRequested_drop (registry : Registry) (token : String) (family : Nat) :
    (registry.drop token).isRequested family = registry.isRequested family := rfl

theorem isRequested_cancel (exist : registry.FamiliesExist)
    (held : registry.family? token = some family) :
    (registry.cancel token).isRequested other = true ↔
      other = family ∨ registry.isRequested other = true := by
  have known := exist.lt_length held
  simp only [isRequested, cancel, held]
  grind

end Registry

/-- A call that requests a stop wakes the waits in its second step. -/
structure Request where
  token : String
  family : Nat
  hasNotified : Bool
  deriving DecidableEq, Repr

/-- A wait registers, then looks for a request, then sleeps until it is woken and begins again. -/
inductive WaitStage where
  | entering
  | registered (notified : Bool)
  | asleep (notified : Bool)
  | returned
  | abandoned
  deriving DecidableEq, Repr

structure Wait where
  family : Nat
  stage : WaitStage
  deriving DecidableEq, Repr

/-- Only a wait that is registered can be woken. -/
def WaitStage.notify : WaitStage → WaitStage
  | .registered _ => .registered true
  | .asleep _ => .asleep true
  | stage => stage

def Wait.notify (wait : Wait) (family : Nat) : Wait :=
  if wait.family = family then { wait with stage := wait.stage.notify } else wait

/-- All calls that ever requested a stop or waited for one are kept beside the tokens. -/
structure System where
  registry : Registry
  requests : List Request
  waits : List Wait
  deriving DecidableEq, Repr

namespace System

def empty : System := ⟨.empty, [], []⟩

def addWait (system : System) (wait : Wait) : System :=
  { system with waits := system.waits ++ [wait] }

/-- The first step of a request makes it known to the tokens of the family. -/
def request (system : System) (token : String) (family : Nat) : System :=
  { system with
    registry := system.registry.cancel token
    requests := system.requests ++ [⟨token, family, false⟩] }

/-- The second step of a request wakes every wait of the family that is registered by then. -/
def notify (system : System) (index : Nat) (request : Request) : System :=
  { system with
    requests := system.requests.set index { request with hasNotified := true }
    waits := system.waits.map fun wait => wait.notify request.family }

def setStage (system : System) (index family : Nat) (stage : WaitStage) : System :=
  { system with waits := system.waits.set index ⟨family, stage⟩ }

/-- These families were asked to stop. -/
def families (system : System) : List Nat := system.requests.map Request.family

end System

/-- Any party may take the next step. -/
inductive Step : System → System → Prop where
  | create (system : System) (token : String) :
      Step system { system with registry := system.registry.create token }
  | copy (system : System) (source token : String) :
      Step system { system with registry := system.registry.copy source token }
  | drop (system : System) (token : String) :
      Step system { system with registry := system.registry.drop token }
  | request (system : System) (token : String) (family : Nat)
      (held : system.registry.family? token = some family) :
      Step system (system.request token family)
  | notify (system : System) (index : Nat) (request : Request)
      (made : system.requests[index]? = some request) (unfinished : request.hasNotified = false) :
      Step system (system.notify index request)
  | wait (system : System) (token : String) (family : Nat)
      (held : system.registry.family? token = some family) :
      Step system (system.addWait ⟨family, .entering⟩)
  | register (system : System) (index family : Nat)
      (entering : system.waits[index]? = some ⟨family, .entering⟩) :
      Step system (system.setStage index family (.registered false))
  | find (system : System) (index family : Nat) (notified : Bool)
      (registered : system.waits[index]? = some ⟨family, .registered notified⟩)
      (requested : system.registry.isRequested family = true) :
      Step system (system.setStage index family .returned)
  | sleep (system : System) (index family : Nat) (notified : Bool)
      (registered : system.waits[index]? = some ⟨family, .registered notified⟩)
      (unrequested : system.registry.isRequested family = false) :
      Step system (system.setStage index family (.asleep notified))
  | wake (system : System) (index family : Nat)
      (notified : system.waits[index]? = some ⟨family, .asleep true⟩) :
      Step system (system.setStage index family .entering)
  | abandon (system : System) (index : Nat) (wait : Wait)
      (going : system.waits[index]? = some wait) (unfinished : wait.stage ≠ .returned) :
      Step system (system.setStage index wait.family .abandoned)

/-- The steps of all parties are interleaved in any order. -/
abbrev Run : System → System → Prop := Relation.ReflTransGen Step

/-- A request that was made is known to its tokens for good, and no wait misses it. -/
structure System.NeverMisses (system : System) : Prop where
  isCancelled_iff : ∀ (token : String) (family : Nat),
    system.registry.family? token = some family →
      (system.registry.isCancelled token = true ↔
        ∃ request ∈ system.requests, request.family = family)
  lasting : ∀ (later : System) (token copy : String), Run system later →
    system.registry.isCancelled token = true →
      later.registry.family? copy = system.registry.family? token →
        later.registry.isCancelled copy = true
  justified : ∀ wait ∈ system.waits, wait.stage = .returned →
    ∃ request ∈ system.requests, request.family = wait.family
  awake : ∀ request ∈ system.requests, request.hasNotified = true →
    ∀ wait ∈ system.waits, wait.family = request.family → wait.stage ≠ .asleep false

/-- A wait that nobody has woken is asleep only before the second step of every request. -/
structure Wait.Fits (system : System) (wait : Wait) : Prop where
  returned : wait.stage = .returned → wait.family ∈ system.families
  asleep : wait.stage = .asleep false →
    ∀ request ∈ system.requests, request.family = wait.family → request.hasNotified = false

structure System.Consistent (system : System) : Prop where
  exist : system.registry.FamiliesExist
  isRequested_iff : ∀ family,
    system.registry.isRequested family = true ↔ family ∈ system.families
  fit : ∀ wait ∈ system.waits, wait.Fits system

namespace Wait

variable {wait : Wait} {family : Nat}

@[simp]
theorem notify_family : (wait.notify family).family = wait.family := by
  unfold notify
  split <;> rfl

theorem returned_of_notify (returned : (wait.notify family).stage = .returned) :
    wait.stage = .returned := by
  unfold notify at returned
  split at returned
  · cases stage : wait.stage <;> simp_all [WaitStage.notify]
  · exact returned

/-- The waits of the family are woken, and the other ones sleep on. -/
theorem asleep_of_notify (asleep : (wait.notify family).stage = .asleep false) :
    wait.stage = .asleep false ∧ wait.family ≠ family := by
  unfold notify at asleep
  split at asleep
  · cases stage : wait.stage <;> simp_all [WaitStage.notify]
  · exact ⟨asleep, ‹_›⟩

theorem fits_of_stage {system : System} (notReturned : wait.stage ≠ .returned)
    (notAsleep : wait.stage ≠ .asleep false) : wait.Fits system :=
  ⟨fun returned => absurd returned notReturned, fun asleep => absurd asleep notAsleep⟩

end Wait

namespace System

variable {system next : System} {token : String} {family index : Nat}

theorem mem_families :
    family ∈ system.families ↔ ∃ request ∈ system.requests, request.family = family :=
  List.mem_map

theorem families_request :
    (system.request token family).families = system.families ++ [family] :=
  List.map_append

theorem families_notify {request : Request} (made : system.requests[index]? = some request) :
    (system.notify index request).families = system.families := by
  have kept : system.families[index]? = some request.family := by
    rw [families, List.getElem?_map, made, Option.map_some]
  obtain ⟨inside, same⟩ := List.getElem?_eq_some_iff.mp kept
  calc (system.notify index request).families
      = system.families.set index request.family := List.map_set
    _ = system.families.set index system.families[index] := by rw [same]
    _ = system.families := List.set_getElem_self inside

theorem consistent_empty : empty.Consistent where
  exist := nofun
  isRequested_iff := by simp [empty, families, Registry.empty, Registry.isRequested]
  fit := nofun

namespace Consistent

/-- Steps that make no request and touch no wait keep every request known. -/
theorem withRegistry (consistent : system.Consistent) {registry : Registry}
    (exist : registry.FamiliesExist)
    (same : ∀ family, registry.isRequested family = system.registry.isRequested family) :
    { system with registry := registry }.Consistent where
  exist := exist
  isRequested_iff family := by
    rw [same]
    exact consistent.isRequested_iff family
  fit wait inside := ⟨(consistent.fit wait inside).returned, (consistent.fit wait inside).asleep⟩

theorem withWaits (consistent : system.Consistent) {waits : List Wait}
    (fit : ∀ wait ∈ waits, wait ∈ system.waits ∨ wait.Fits system) :
    { system with waits := waits }.Consistent where
  exist := consistent.exist
  isRequested_iff := consistent.isRequested_iff
  fit wait inside := by
    have fits := (fit wait inside).elim (consistent.fit wait) id
    exact ⟨fits.returned, fits.asleep⟩

theorem setStage (consistent : system.Consistent) (index : Nat) {stage : WaitStage}
    (fits : Wait.Fits system ⟨family, stage⟩) :
    (system.setStage index family stage).Consistent := by
  refine consistent.withWaits fun wait inside => ?_
  rcases List.mem_or_eq_of_mem_set inside with old | rfl
  · exact .inl old
  · exact .inr fits

/-- The new request has not taken its second step, so that nobody has to be awake. -/
theorem request (consistent : system.Consistent)
    (held : system.registry.family? token = some family) :
    (system.request token family).Consistent where
  exist := consistent.exist.cancel token
  isRequested_iff other := by
    rw [families_request, List.mem_append, List.mem_singleton, or_comm,
      ← consistent.isRequested_iff]
    exact Registry.isRequested_cancel consistent.exist held
  fit wait inside := by
    obtain ⟨returned, asleep⟩ := consistent.fit wait inside
    refine ⟨fun stage => ?_, fun stage request made same => ?_⟩
    · rw [families_request]
      exact List.mem_append_left _ (returned stage)
    · rcases List.mem_append.mp made with old | new
      · exact asleep stage request old same
      · rw [List.mem_singleton.mp new]

/-- The waits that sleep on after the second step are of another family. -/
theorem notify (consistent : system.Consistent) {request : Request}
    (made : system.requests[index]? = some request) :
    (system.notify index request).Consistent where
  exist := consistent.exist
  isRequested_iff family := by
    rw [families_notify made]
    exact consistent.isRequested_iff family
  fit wait inside := by
    obtain ⟨old, oldInside, rfl⟩ := List.mem_map.mp inside
    obtain ⟨returned, asleep⟩ := consistent.fit old oldInside
    refine ⟨fun stage => ?_, fun stage other otherMade same => ?_⟩
    · rw [families_notify made, Wait.notify_family]
      exact returned (Wait.returned_of_notify stage)
    · obtain ⟨oldStage, different⟩ := Wait.asleep_of_notify stage
      rw [Wait.notify_family] at same
      rcases List.mem_or_eq_of_mem_set otherMade with oldMade | rfl
      · exact asleep oldStage other oldMade same
      · exact absurd same.symm different

/-- A wait falls asleep only if it has found no request, so that none was made before. -/
theorem step (consistent : system.Consistent) (step : Step system next) : next.Consistent := by
  cases step with
  | create token =>
      exact consistent.withRegistry (consistent.exist.create token)
        (system.registry.isRequested_create token)
  | copy source token =>
      exact consistent.withRegistry (consistent.exist.copy source token)
        (system.registry.isRequested_copy source token)
  | drop token =>
      exact consistent.withRegistry (consistent.exist.drop token)
        (system.registry.isRequested_drop token)
  | request token family held => exact consistent.request held
  | notify index request made => exact consistent.notify made
  | wait token family held =>
      refine consistent.withWaits fun wait inside => ?_
      rcases List.mem_append.mp inside with old | new
      · exact .inl old
      · rw [List.mem_singleton.mp new]
        exact .inr (Wait.fits_of_stage nofun nofun)
  | register index family => exact consistent.setStage index (Wait.fits_of_stage nofun nofun)
  | find index family notified registered requested =>
      exact consistent.setStage index
        ⟨fun _ => (consistent.isRequested_iff family).mp requested, nofun⟩
  | sleep index family notified registered unrequested =>
      -- The first step of any request would have been found.
      refine consistent.setStage index ⟨nofun, fun _ request made same => ?_⟩
      have asked : family ∈ system.families := mem_families.mpr ⟨request, made, same⟩
      have requested := (consistent.isRequested_iff family).mpr asked
      exact absurd (requested.symm.trans unrequested) nofun
  | wake index family => exact consistent.setStage index (Wait.fits_of_stage nofun nofun)
  | abandon index wait => exact consistent.setStage index (Wait.fits_of_stage nofun nofun)

theorem run (consistent : system.Consistent) (run : Run system next) : next.Consistent := by
  induction run with
  | refl => exact consistent
  | tail _ last inductionHypothesis => exact inductionHypothesis.step last

theorem isCancelled_iff (consistent : system.Consistent)
    (held : system.registry.family? token = some family) :
    system.registry.isCancelled token = true ↔ family ∈ system.families := by
  rw [Registry.isCancelled_eq_isRequested held, consistent.isRequested_iff]

end Consistent

end System

theorem Step.families_subset {system next : System} (step : Step system next) :
    system.families ⊆ next.families := by
  cases step with
  | request token family =>
      rw [System.families_request]
      exact List.subset_append_left _ _
  | notify index request made =>
      rw [System.families_notify made]
      exact List.Subset.refl _
  | _ => exact List.Subset.refl _

theorem Run.families_subset {system next : System} (run : Run system next) :
    system.families ⊆ next.families := by
  induction run with
  | refl => exact List.Subset.refl _
  | tail _ last inductionHypothesis =>
      exact List.Subset.trans inductionHypothesis last.families_subset

/-- No party misses a request, whatever the parties have done and in whichever order. -/
theorem requests_neverMissed {system : System} (run : Run .empty system) :
    system.NeverMisses := by
  have consistent := System.consistent_empty.run run
  constructor
  case isCancelled_iff =>
    intro token family held
    rw [consistent.isCancelled_iff held, System.mem_families]
  case lasting =>
    intro later token copy onward cancelled same
    cases held : system.registry.family? token with
    | none => simp [Registry.isCancelled, held] at cancelled
    | some family =>
        have requested := (consistent.isCancelled_iff held).mp cancelled
        rw [(consistent.run onward).isCancelled_iff (same.trans held)]
        exact onward.families_subset requested
  case justified =>
    intro wait inside returned
    exact System.mem_families.mp ((consistent.fit wait inside).returned returned)
  case awake =>
    intro request made notified wait inside same asleep
    have unfinished := (consistent.fit wait inside).asleep asleep request made same.symm
    exact absurd (notified.symm.trans unfinished) nofun

/-- A copy asks for the stop, and the wait of another family sleeps on. -/
theorem requests_neverMissed_byCopy :
    let system : System :=
      ⟨⟨[("other", 1), ("copy", 0)], [true, false]⟩, [⟨"copy", 0, true⟩],
        [⟨0, .asleep true⟩, ⟨1, .asleep false⟩, ⟨0, .returned⟩]⟩
    Run .empty system ∧ system.NeverMisses := by
  intro system
  have run : Run .empty system := by
    have created : Run .empty _ := .single (.create _ "first")
    have copied := (created.tail (.copy _ "first" "copy")).tail (.create _ "other")
    have entered := ((copied.tail (.wait _ "first" 0 rfl)).tail (.wait _ "other" 1 rfl)).tail
      (.wait _ "copy" 0 rfl)
    have registered := (entered.tail (.register _ 0 0 rfl)).tail (.register _ 1 1 rfl)
    have asleep := (registered.tail (.sleep _ 0 0 false rfl rfl)).tail
      (.sleep _ 1 1 false rfl rfl)
    have requested := (asleep.tail (.drop _ "first")).tail (.request _ "copy" 0 rfl)
    have found := (requested.tail (.register _ 2 0 rfl)).tail (.find _ 2 0 false rfl rfl)
    exact found.tail (.notify _ 0 ⟨"copy", 0, false⟩ rfl rfl)
  exact ⟨run, requests_neverMissed run⟩

section

variable {system : System} {token waiting : String} {family asked : Nat}

namespace System

theorem getElem?_addWait (system : System) (wait : Wait) :
    (system.addWait wait).waits[system.waits.length]? = some wait :=
  List.getElem?_concat_length

theorem setStage_addWait {wait : Wait} {stage : WaitStage} :
    (system.addWait wait).setStage system.waits.length family stage =
      system.addWait ⟨family, stage⟩ := by
  simp [addWait, setStage]

theorem notify_addWait {wait : Wait} {index : Nat} {request : Request} :
    (system.addWait wait).notify index request =
      (system.notify index request).addWait (wait.notify request.family) := by
  simp [addWait, notify]

end System

/-- Steps of the newest wait change nothing else. -/
theorem Step.newest {wait : Wait} {stage : WaitStage}
    (step : Step (system.addWait wait)
      ((system.addWait wait).setStage system.waits.length family stage)) :
    Step (system.addWait wait) (system.addWait ⟨family, stage⟩) := by
  rwa [System.setStage_addWait] at step

theorem Run.register : Run (system.addWait ⟨family, .entering⟩)
    (system.addWait ⟨family, .registered false⟩) :=
  .single (Step.newest (.register _ _ family (system.getElem?_addWait _)))

/-- A wait that finds a request ends at once. -/
theorem Run.find (requested : system.registry.isRequested family = true) :
    Run (system.addWait ⟨family, .entering⟩) (system.addWait ⟨family, .returned⟩) :=
  Run.register.tail
    (Step.newest (.find _ _ family false (system.getElem?_addWait _) requested))

theorem Run.sleep (unrequested : system.registry.isRequested family = false) :
    Run (system.addWait ⟨family, .entering⟩) (system.addWait ⟨family, .asleep false⟩) :=
  Run.register.tail
    (Step.newest (.sleep _ _ family false (system.getElem?_addWait _) unrequested))

/-- A wait that is asleep ends with the two steps of a request of its family. -/
theorem Run.wakeAndFind (exist : system.registry.FamiliesExist)
    (held : system.registry.family? token = some family) :
    ∃ next, Run (system.addWait ⟨family, .asleep false⟩) next ∧
      next.registry = system.registry.cancel token ∧
        next.waits[system.waits.length]? = some ⟨family, .returned⟩ := by
  let request : Request := ⟨token, family, false⟩
  let after := (system.request token family).notify system.requests.length request
  have requested : after.registry.isRequested family = true :=
    (Registry.isRequested_cancel exist held).mpr (.inl rfl)
  have made : Step (system.addWait ⟨family, .asleep false⟩)
      ((system.request token family).addWait ⟨family, .asleep false⟩) :=
    .request _ token family held
  have notified : Step ((system.request token family).addWait ⟨family, .asleep false⟩)
      (after.addWait ⟨family, .asleep true⟩) := by
    have step := Step.notify ((system.request token family).addWait ⟨family, .asleep false⟩)
      system.requests.length request List.getElem?_concat_length rfl
    rwa [System.notify_addWait, Wait.notify, if_pos rfl] at step
  have woken : Step (after.addWait ⟨family, .asleep true⟩) (after.addWait ⟨family, .entering⟩) :=
    Step.newest (.wake _ _ family (after.getElem?_addWait _))
  refine ⟨after.addWait ⟨family, .returned⟩, ?_, rfl, ?_⟩
  · exact (Relation.ReflTransGen.single made).tail notified |>.tail woken |>.trans
      (Run.find requested)
  · have length : after.waits.length = system.waits.length := List.length_map _
    rw [← length]
    exact after.getElem?_addWait _

/-- A wait beside one later request goes as some interleaving of the two does. -/
theorem Registry.waitWhileCancelling_isRun (exist : system.registry.FamiliesExist)
    (waits : system.registry.family? waiting = some family)
    (asks : system.registry.family? token = some asked) (delay limit : Nat) :
    let (result, registry) := system.registry.waitWhileCancelling token waiting delay limit
    ∃ next, Run system next ∧ next.registry = registry ∧
      next.waits[system.waits.length]? =
        some ⟨family, if result.resolved then .returned else .abandoned⟩ := by
  have entered : Run system (system.addWait ⟨family, .entering⟩) :=
    .single (.wait system waiting family waits)
  have asksLater (stage : WaitStage) : Step (system.addWait ⟨family, stage⟩)
      ((system.request token asked).addWait ⟨family, stage⟩) := .request _ token asked asks
  simp only [waitWhileCancelling, isCancelled_eq_isRequested waits]
  cases requested : system.registry.isRequested family with
  | true =>
      refine ⟨_, (entered.trans (Run.find requested)).tail (asksLater .returned), rfl, ?_⟩
      exact System.getElem?_addWait _ _
  | false =>
      have asleep := entered.trans (Run.sleep requested)
      by_cases woken : asked = family ∧ delay < limit
      · obtain ⟨rfl, inTime⟩ := woken
        obtain ⟨next, run, registry, returned⟩ := Run.wakeAndFind exist asks
        refine ⟨next, asleep.trans run, registry, ?_⟩
        simpa [isSameFamily, waits, asks, inTime] using returned
      · have abandoned : Step (system.addWait ⟨family, .asleep false⟩)
            (system.addWait ⟨family, .abandoned⟩) :=
          Step.newest (.abandon _ _ ⟨family, .asleep false⟩ (system.getElem?_addWait _) nofun)
        refine ⟨_, (asleep.tail abandoned).tail (asksLater .abandoned), rfl, ?_⟩
        have unresolved :
            (system.registry.isSameFamily token waiting && decide (delay < limit)) = false := by
          simpa [isSameFamily, waits, asks] using woken
        simp only [unresolved]
        exact System.getElem?_addWait _ _

end

end AssetSearch.Cancellation
