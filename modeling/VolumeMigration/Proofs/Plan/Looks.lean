import VolumeMigration.Proofs.Plan.Heed

/-!
# The last look of a wait

A wait ends well with its last look. `LastLook` says so of the calls that it makes: the last of
them showed what the wait was for, and those before it only looked as well.
-/

namespace VolumeMigration

/-- Some calls look at objects, and the last of them is a given one. -/
def LastLook (last : Exchange) (made : List Exchange) : Prop :=
  ∃ looks, made = looks ++ [last] ∧ ∀ exchange ∈ looks, exchange.call.isLook = true

section Within

variable {allowed : Call → Bool}

theorem within_lookAtPod (cluster : ClusterHandle) (pod : ResourceRef)
    (verdict : PodState → Verdict)
    (permitted : allowed (.podState pod.ns pod.name) = true) :
    (lookAtPod cluster pod verdict).Within allowed := by
  apply (Plan.within_ask cluster permitted).bind
  intro state
  cases verdict state <;> trivial

theorem within_waitPodReady (pacing : Pacing) (cluster : ClusterHandle) (pod : ResourceRef)
    (permitted : allowed (.podState pod.ns pod.name) = true) :
    (waitPodReady pacing cluster pod).Within allowed :=
  within_pollUntil _ _ _ (within_lookAtPod cluster pod _ permitted)

theorem within_waitPodCompleted (pacing : Pacing) (cluster : ClusterHandle) (pod : ResourceRef)
    (permitted : allowed (.podState pod.ns pod.name) = true) :
    (waitPodCompleted pacing cluster pod).Within allowed :=
  (within_pollUntil _ _ _ (within_lookAtPod cluster pod _ permitted)).bind fun _ =>
    within_pollUntil _ _ _ (within_lookAtPod cluster pod _ permitted)

end Within

/-- Only a pod that runs and is ready has become ready. -/
theorem readyVerdict_reached {name : String} {state : PodState}
    (reached : readyVerdict name state = .reached) : state = .running true := by
  unfold readyVerdict at reached
  split at reached <;> (try split at reached) <;> simp_all

/-- Only a pod that has ended well has completed. -/
theorem completedVerdict_reached {name : String} {state : PodState}
    (reached : completedVerdict name state = .reached) : state = .succeeded := by
  cases state <;> simp_all [completedVerdict]

/-- A look at a pod answers only with a state that was awaited. -/
theorem course_lookAtPod {cluster : ClusterHandle} {pod : ResourceRef}
    {verdict : PodState → Verdict} {cancelled : Bool} {trace : List Occurrence}
    {leftovers : List String} {answer : Unit}
    (course : (lookAtPod cluster pod verdict).Course cancelled trace leftovers
      (.ok (some answer))) :
    ∃ state, verdict state = .reached ∧
      Plan.Asking cluster (.podState pod.ns pod.name) (.ok state) cancelled trace := by
  rcases course.of_bind_ok with ⟨state, asked, judged, _, _, rfl, -, ask, rest⟩
  cases judgement : verdict state with
  | reached =>
      rw [judgement] at rest
      rcases Plan.course_done_iff.mp rest with ⟨rfl, -, -⟩
      rw [List.append_nil]
      exact ⟨state, judgement, ask.of_ask.2⟩
  | waiting =>
      rw [judgement] at rest
      have impossible := (Plan.course_done_iff.mp rest).2.2
      cases impossible
  | hopeless failure =>
      rw [judgement] at rest
      have impossible := (Plan.course_fail_iff.mp rest).2.2
      cases impossible

/-- A wait whose looks only look ends well with a look that answers. -/
theorem course_pollUntil_ok {α : Type} {interval limit : Duration} {positive : 0 < interval}
    {tooLate : Failure} {look : Plan (Option α)} {cancelled : Bool} {trace : List Occurrence}
    {leftovers : List String} {answer : α} (looks : look.Within Call.isLook)
    (course : (pollUntil positive limit tooLate look).Course cancelled trace leftovers
      (.ok answer)) :
    ∃ first last noted, trace = first ++ last ∧
      (∀ exchange ∈ exchanges first, exchange.call.isLook = true) ∧
      look.Course false last noted (.ok (some answer)) := by
  have calls := (course.within (within_pollUntil positive limit tooLate looks)).2
  rcases (course_pollUntil course).answer answer rfl with ⟨first, last, noted, rfl, -, looked⟩
  refine ⟨first, last, noted, rfl, ?_, looked⟩
  intro exchange exchange_mem
  apply calls
  rw [exchanges_append]
  exact List.mem_append_left _ exchange_mem

/-- The last look that waiting makes shows what it waits for. -/
theorem lastLook_pollPod {interval limit : Duration} {positive : 0 < interval} {tooLate : Failure}
    {cluster : ClusterHandle} {pod : ResourceRef} {verdict : PodState → Verdict}
    {cancelled : Bool} {trace : List Occurrence} {leftovers : List String}
    (course : (pollUntil positive limit tooLate (lookAtPod cluster pod verdict)).Course cancelled
      trace leftovers (.ok ())) :
    ∃ state, verdict state = .reached ∧
      LastLook ⟨cluster, .podState pod.ns pod.name, .ok state⟩ (exchanges trace) := by
  rcases course_pollUntil_ok (within_lookAtPod cluster pod verdict rfl) course with
    ⟨first, last, _, rfl, looks, looked⟩
  rcases course_lookAtPod looked with ⟨state, reached, asking⟩
  refine ⟨state, reached, exchanges first, ?_, looks⟩
  rw [exchanges_append, asking.exchanges]

/-- A pod that has become ready was ready at the last look. -/
theorem lastLook_waitPodReady {pacing : Pacing} {cluster : ClusterHandle} {pod : ResourceRef}
    {cancelled : Bool} {trace : List Occurrence} {leftovers : List String}
    (course : (waitPodReady pacing cluster pod).Course cancelled trace leftovers (.ok ())) :
    LastLook ⟨cluster, .podState pod.ns pod.name, .ok (.running true)⟩ (exchanges trace) := by
  rcases lastLook_pollPod course with ⟨state, reached, last⟩
  rw [readyVerdict_reached reached] at last
  exact last

/-- A pod that has completed had succeeded at the last look. -/
theorem lastLook_waitPodCompleted {pacing : Pacing} {cluster : ClusterHandle} {pod : ResourceRef}
    {cancelled : Bool} {trace : List Occurrence} {leftovers : List String}
    (course : (waitPodCompleted pacing cluster pod).Course cancelled trace leftovers (.ok ())) :
    LastLook ⟨cluster, .podState pod.ns pod.name, .ok PodState.succeeded⟩ (exchanges trace) := by
  rcases course.of_bind_ok with ⟨_, first, second, _, _, rfl, -, started, succeeded⟩
  rcases lastLook_pollPod succeeded with ⟨state, reached, looks, made, looking⟩
  have within : (lookAtPod cluster pod (startedVerdict pod.name)).Within Call.isLook :=
    within_lookAtPod cluster pod _ rfl
  have before := (started.within (within_pollUntil _ _ _ within)).2
  rw [completedVerdict_reached reached] at made
  refine ⟨exchanges first ++ looks, ?_, ?_⟩
  · rw [exchanges_append, made, List.append_assoc]
  · intro exchange exchange_mem
    rcases List.mem_append.mp exchange_mem with early | late
    · exact before exchange early
    · exact looking exchange late

/-- The host of a service is the one that the last look shows. -/
theorem lastLook_waitServiceIngress {pacing : Pacing} {cluster : ClusterHandle}
    {service : ResourceRef} {cancelled : Bool} {trace : List Occurrence}
    {leftovers : List String} {host : String}
    (course : (waitServiceIngress pacing cluster service).Course cancelled trace leftovers
      (.ok host)) :
    LastLook ⟨cluster, .serviceIngress service.ns service.name, .ok (some host)⟩
      (exchanges trace) := by
  rcases course_pollUntil_ok (Plan.within_ask cluster rfl) course with
    ⟨first, last, _, rfl, looks, looked⟩
  refine ⟨exchanges first, ?_, looks⟩
  rw [exchanges_append, looked.of_ask.2.exchanges]
  rfl

end VolumeMigration
