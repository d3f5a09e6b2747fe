import Mathlib.Data.List.Induction
import Mathlib.Data.List.Nodup
import InDoubt.Observation.Metering
import InDoubt.Proofs.Outcome

/-!
Which set of metrics is handed out, over any course of requests. The set that was set up last is,
even if its server was refused, or else one that was made for the first who asked. That one takes
the registry of the process, so what is then set up there fails.
-/

namespace InDoubt.Metering

def registered (metering : Metering) : List Registry := metering.sets.map MetricSet.registry

namespace Request

def given? : Request → Option Registry
  | .get => none
  | .setup _ registry _ => some registry

def refused? : Request → Option Fault
  | .get => none
  | .setup _ _ refused => refused

def registry (request : Request) : Registry := request.given?.getD .default

def told (request : Request) (made : Nat) : Except Fault Nat :=
  match request.refused? with
  | some fault => .error fault
  | none => .ok made

theorem told_eq_ok_iff {request : Request} {made position : Nat} :
    request.told made = .ok position ↔ request.refused? = none ∧ made = position := by
  unfold told
  cases request.refused? with
  | none => simp
  | some fault => simp

end Request

/-- How a request is answered: with the global set as it stands, with a set made for it, or not at
all because its registry is taken. A set whose server is refused has been made as well. -/
inductive Answers (metering : Metering) (request : Request) : Except Fault Nat × Metering → Prop
  | known {made : Nat} (asked : request = .get) (held : metering.global = some made) :
      Answers metering request (.ok made, metering)
  | fresh {changed : Metering} (needed : request = .get → metering.global = none)
      (free : request.registry ∉ metering.registered)
      (held : changed.global = some metering.registered.length)
      (grown : changed.registered = metering.registered ++ [request.registry]) :
      Answers metering request (request.told metering.registered.length, changed)
  | refused (needed : request = .get → metering.global = none)
      (taken : request.registry ∈ metering.registered) :
      Answers metering request (.error duplicate, metering)

theorem map_registry_modify {change : MetricSet → MetricSet}
    (keeps : ∀ set, (change set).registry = set.registry) (sets : List MetricSet)
    (position : Nat) :
    (sets.modify position change).map MetricSet.registry = sets.map MetricSet.registry := by
  apply List.ext_getElem?
  intro other
  rw [List.getElem?_map, List.getElem?_map, List.getElem?_modify]
  cases sets[other]? with
  | none => rfl
  | some set =>
      apply congrArg some
      split
      · exact keeps set
      · rfl

theorem create_of_taken {metering : Metering} {registry : Registry}
    (taken : registry ∈ metering.registered) : metering.create registry = .error duplicate := by
  obtain ⟨set, member, same⟩ := List.mem_map.mp taken
  apply if_pos
  exact List.any_eq_true.mpr ⟨set, member, decide_eq_true same⟩

theorem create_of_free {metering : Metering} {registry : Registry}
    (free : registry ∉ metering.registered) :
    metering.create registry = .ok (metering.registered.length,
      { metering with sets := metering.sets ++ [⟨registry, false, .empty⟩] }) := by
  rw [registered, List.length_map]
  apply if_neg
  rw [List.any_eq_true]
  intro ⟨set, member, same⟩
  exact free (List.mem_map.mpr ⟨set, member, of_decide_eq_true same⟩)

theorem answers_step (metering : Metering) (request : Request) :
    Answers metering request (metering.step request) := by
  cases request with
  | get =>
      cases held : metering.global with
      | some made =>
          have answer : metering.step .get = (.ok made, metering) := by rw [step, get, held]
          rw [answer]
          exact .known rfl held
      | none =>
          by_cases taken : Registry.default ∈ metering.registered
          · have answer : metering.step .get = (.error duplicate, metering) := by
              rw [step, get, held, create_of_taken taken]
            rw [answer]
            exact .refused (fun _ => held) taken
          · rw [step, get, held, create_of_free taken]
            exact .fresh (fun _ => held) taken rfl (List.map_append)
  | setup settings registry refused =>
      by_cases taken : registry ∈ metering.registered
      · rw [step, setup, create_of_taken taken]
        exact .refused Request.noConfusion taken
      · have kept : ∀ set : MetricSet, { set with versioned := true }.registry = set.registry :=
          fun _ => rfl
        have grown := (map_registry_modify kept (metering.sets ++ [⟨registry, false, .empty⟩])
          metering.registered.length).trans List.map_append
        rw [step, setup, create_of_free taken]
        cases refused with
        | none => exact .fresh Request.noConfusion taken rfl grown
        | some fault => exact .fresh Request.noConfusion taken rfl grown

theorem global_of_step {metering changed : Metering} {request : Request} {made : Nat}
    (answered : metering.step request = (.ok made, changed)) : changed.global = some made := by
  have answers := answers_step metering request
  rw [answered] at answers
  generalize told : Except.ok made = answer at answers
  cases answers with
  | known asked held =>
      cases told
      exact held
  | fresh needed free held grown =>
      obtain ⟨_, rfl⟩ := Request.told_eq_ok_iff.mp told.symm
      exact held
  | refused needed taken => cases told

theorem registered_prefix_after (metering : Metering) (request : Request) :
    metering.registered <+: (metering.after request).registered := by
  have answers := answers_step metering request
  unfold after
  generalize metering.step request = answer at answers ⊢
  cases answers with
  | known asked held => exact List.prefix_rfl
  | fresh needed free held grown => exact ⟨[request.registry], grown.symm⟩
  | refused needed taken => exact List.prefix_rfl

theorem run_append (metering : Metering) (first later : List Request) :
    metering.run (first ++ later) = (metering.run first).run later := List.foldl_append

theorem registered_prefix_run (metering : Metering) (requests : List Request) :
    metering.registered <+: (metering.run requests).registered := by
  induction requests generalizing metering with
  | nil => exact List.prefix_rfl
  | cons request rest restKept =>
      exact (registered_prefix_after metering request).trans (restKept (metering.after request))

theorem run_gets {metering : Metering} {made : Nat} {requests : List Request}
    (held : metering.global = some made) (gets : ∀ request ∈ requests, request = .get) :
    metering.run requests = metering := by
  induction requests with
  | nil => rfl
  | cons request rest restKept =>
      obtain ⟨asked, restGets⟩ := List.forall_mem_cons.mp gets
      have kept : metering.after request = metering := by
        rw [asked, after, step, get, held]
      rw [run, List.foldl_cons, kept]
      exact restKept restGets

def registries (requests : List Request) : List Registry := requests.filterMap Request.given?

/-- What holds of the sets after a course of requests, to which nothing else contributed. -/
structure Follows (metering : Metering) (requests : List Request) : Prop where
  untouched : metering.global = none → requests = [] ∧ metering.registered = []
  within : ∀ made, metering.global = some made → made < metering.registered.length
  accounted : ∀ registry ∈ metering.registered,
    registry ∈ registries requests ∨ (registry = .default ∧ requests.head? = some .get)

theorem Follows.later {metering : Metering} {requests : List Request}
    (follows : Follows metering requests) (request : Request) {registry : Registry}
    (member : registry ∈ metering.registered) :
    registry ∈ registries (requests ++ [request]) ∨
      (registry = .default ∧ (requests ++ [request]).head? = some .get) := by
  rcases follows.accounted registry member with given | ⟨isDefault, first⟩
  · rw [registries, List.filterMap_append]
    exact .inl (List.mem_append_left _ given)
  · rw [List.head?_append, first]
    exact .inr ⟨isDefault, rfl⟩

theorem Follows.after {metering : Metering} {requests : List Request}
    (follows : Follows metering requests) (request : Request) :
    Follows (metering.after request) (requests ++ [request]) := by
  have stays : metering.global ≠ none → Follows metering (requests ++ [request]) := fun held =>
    ⟨fun absent => absurd absent held, follows.within, fun _ => follows.later request⟩
  have answers := answers_step metering request
  unfold Metering.after
  generalize metering.step request = answer at answers ⊢
  cases answers with
  | known asked held =>
      apply stays
      rw [held]
      exact Option.some_ne_none _
  | refused needed taken =>
      -- Nothing is taken before the first request, so this is a later one.
      apply stays
      intro absent
      rw [(follows.untouched absent).2] at taken
      cases taken
  | fresh needed free held grown =>
      refine ⟨?_, ?_, ?_⟩
      · intro absent
        rw [held] at absent
        cases absent
      · intro made current
        rw [held] at current
        cases current
        rw [grown, List.length_append]
        exact Nat.lt_succ_self _
      · intro registry member
        rw [grown, List.mem_append, List.mem_singleton] at member
        rcases member with earlier | rfl
        · exact follows.later request earlier
        · cases request with
          | get =>
              -- A set is made for the asking only if there is no global one: first of all.
              rw [(follows.untouched (needed rfl)).1]
              exact .inr ⟨rfl, rfl⟩
          | setup settings registry refused =>
              rw [registries, List.filterMap_append]
              exact .inl (List.mem_append_right _ (List.mem_singleton.mpr rfl))

theorem follows_run (requests : List Request) : Follows (empty.run requests) requests := by
  induction requests using List.reverseRecOn with
  | nil => exact ⟨fun _ => ⟨rfl, rfl⟩, nofun, nofun⟩
  | append_singleton before request beforeFollows =>
      rw [run_append]
      exact beforeFollows.after request

def reply (before : List Request) (request : Request) : Except Fault Nat :=
  (empty.run before).answer request

def SetUpLate (requests : List Request) : Prop :=
  ∃ rest settings refused, requests = .get :: rest ∧ .setup settings .default refused ∈ rest

/-- Every request is answered. Whoever asks gets the set that was set up last, a new one each time,
and before there is any all get the same. -/
structure Serves (requests : List Request) : Prop where
  answered : ∀ before request later, requests = before ++ request :: later →
    ∃ made, reply before request = .ok made
  latest : ∀ before settings registry refused between later,
    requests = before ++ .setup settings registry refused :: (between ++ .get :: later) →
    (∀ request ∈ between, request = .get) →
    reply (before ++ .setup settings registry refused :: between) .get =
      reply before (.setup settings registry refused)
  lazy : ∀ between later, requests = between ++ .get :: later →
    (∀ request ∈ between, request = .get) → reply between .get = reply [] .get
  fresh : ∀ before request between settings registry refused later,
    requests = before ++ request :: (between ++ .setup settings registry refused :: later) →
    reply (before ++ request :: between) (.setup settings registry refused) ≠ reply before request

variable {before : List Request} {request : Request} {made : Nat}

theorem global_of_reply (replied : reply before request = .ok made) :
    (empty.run (before ++ [request])).global = some made := by
  rw [run_append]
  exact global_of_step (Prod.ext replied rfl)

theorem reply_get_of_global (held : (empty.run before).global = some made) :
    reply before .get = .ok made := by
  rw [reply, answer, step, get, held]

theorem reply_get_after {between : List Request} (replied : reply before request = .ok made)
    (gets : ∀ request ∈ between, request = .get) :
    reply (before ++ request :: between) .get = .ok made := by
  have held := global_of_reply replied
  apply reply_get_of_global
  rw [List.append_cons, run_append, run_gets held gets]
  exact held

theorem eq_registered_of_reply_setup {settings : ObservabilitySettings} {registry : Registry}
    {refused : Option Fault}
    (replied : reply before (.setup settings registry refused) = .ok made) :
    made = (empty.run before).registered.length := by
  have answers := answers_step (empty.run before) (.setup settings registry refused)
  unfold reply answer at replied
  generalize (empty.run before).step (.setup settings registry refused) = answer
    at answers replied
  cases answers with
  | known asked held => cases asked
  | fresh needed free held grown => exact (Request.told_eq_ok_iff.mp replied).2.symm
  | refused needed taken => cases replied

theorem lt_registered_of_reply {between : List Request}
    (replied : reply before request = .ok made) :
    made < (empty.run (before ++ request :: between)).registered.length := by
  have within := (follows_run (before ++ [request])).within made (global_of_reply replied)
  rw [List.append_cons, run_append]
  exact Nat.lt_of_lt_of_le within (registered_prefix_run _ between).length_le

theorem registry_free {requests later : List Request} (distinct : (registries requests).Nodup)
    (early : ¬SetUpLate requests) (parts : requests = before ++ request :: later)
    (needed : request = .get → (empty.run before).global = none) :
    request.registry ∉ (empty.run before).registered := by
  subst parts
  intro taken
  have follows := follows_run before
  cases request with
  | get =>
      rw [(follows.untouched (needed rfl)).2] at taken
      cases taken
  | setup settings registry refused =>
      rcases follows.accounted registry taken with given | ⟨isDefault, first⟩
      · rw [registries, List.filterMap_append] at distinct
        apply List.disjoint_of_nodup_append distinct given
        exact List.mem_filterMap.mpr ⟨_, List.mem_cons_self, rfl⟩
      · cases isDefault
        obtain ⟨rest, rfl⟩ := List.head?_eq_some_iff.mp first
        apply early
        exact ⟨rest ++ .setup settings .default refused :: later, settings, refused, rfl,
          List.mem_append_right _ List.mem_cons_self⟩

theorem exists_reply {requests later : List Request} (distinct : (registries requests).Nodup)
    (early : ¬SetUpLate requests) (parts : requests = before ++ request :: later)
    (started : request.refused? = none) : ∃ made, reply before request = .ok made := by
  have free := registry_free distinct early parts
  have answers := answers_step (empty.run before) request
  unfold reply answer
  generalize (empty.run before).step request = answer at answers ⊢
  cases answers with
  | known asked held => exact ⟨_, rfl⟩
  | fresh needed free held grown => exact ⟨_, Request.told_eq_ok_iff.mpr ⟨started, rfl⟩⟩
  | refused needed taken => exact absurd taken (free needed)

theorem refused?_of_reply (replied : reply before request = .ok made) :
    request.refused? = none := by
  have answers := answers_step (empty.run before) request
  unfold reply answer at replied
  generalize (empty.run before).step request = answer at answers replied
  cases answers with
  | known asked held =>
      rw [asked]
      rfl
  | fresh needed free held grown => exact (Request.told_eq_ok_iff.mp replied).1
  | refused needed taken => cases replied

theorem reply_get_after_setup {requests between later : List Request}
    {settings : ObservabilitySettings} {registry : Registry} {refused : Option Fault}
    (distinct : (registries requests).Nodup) (early : ¬SetUpLate requests)
    (parts : requests = before ++ .setup settings registry refused :: later)
    (gets : ∀ request ∈ between, request = .get) :
    reply (before ++ .setup settings registry refused :: between) .get =
      .ok (empty.run before).registered.length := by
  have free := registry_free distinct early parts
  have held : ((empty.run before).after (.setup settings registry refused)).global =
      some (empty.run before).registered.length := by
    have answers := answers_step (empty.run before) (.setup settings registry refused)
    unfold after
    generalize (empty.run before).step (.setup settings registry refused) = answer at answers ⊢
    cases answers with
    | known asked held => cases asked
    | fresh needed free held grown => exact held
    | refused needed taken => exact absurd taken (free needed)
  apply reply_get_of_global
  rw [List.append_cons, run_append, run_append]
  exact (congrArg Metering.global (run_gets held gets)).trans held

theorem reply_of_setUpLate (settings : ObservabilitySettings) (refused : Option Fault)
    (between : List Request) :
    reply (.get :: between) (.setup settings .default refused) = .error duplicate := by
  have taken : Registry.default ∈ (empty.run (.get :: between)).registered :=
    (registered_prefix_run (empty.run [.get]) between).subset (List.mem_singleton.mpr rfl)
  rw [reply, answer, step, setup, create_of_taken taken]

/-- Answers to all requests are enough: what is told of a set then follows from the course. -/
theorem serves_of_answered {requests : List Request}
    (answered : ∀ before request later, requests = before ++ request :: later →
      ∃ made, reply before request = .ok made) : Serves requests := by
  refine ⟨answered, ?_, ?_, ?_⟩
  · intro before settings registry refused between later parts gets
    obtain ⟨made, replied⟩ := answered before _ _ parts
    rw [replied]
    exact reply_get_after replied gets
  · intro between later parts gets
    have first : reply [] .get = .ok 0 := rfl
    cases between with
    | nil => rfl
    | cons request rest =>
        obtain ⟨rfl, restGets⟩ := List.forall_mem_cons.mp gets
        rw [first]
        exact reply_get_after first restGets
  · intro before request between settings registry refused later parts same
    obtain ⟨made, replied⟩ := answered before _ _ parts
    rw [replied] at same
    have small : made < (empty.run (before ++ request :: between)).registered.length :=
      lt_registered_of_reply replied
    exact Nat.ne_of_lt small (eq_registered_of_reply_setup same)

theorem Serves.not_setUpLate {requests : List Request} (serves : Serves requests) :
    ¬SetUpLate requests := by
  intro late
  obtain ⟨rest, settings, refused, rfl, asked⟩ := late
  obtain ⟨between, later, rfl⟩ := List.append_of_mem asked
  obtain ⟨made, replied⟩ := serves.answered (.get :: between) _ later rfl
  rw [reply_of_setUpLate] at replied
  cases replied

theorem serves_iff_not_setUpLate {requests : List Request}
    (distinct : (registries requests).Nodup) :
    (Serves requests ↔
      ¬SetUpLate requests ∧ ∀ request ∈ requests, request.refused? = none) ∧
    (¬SetUpLate requests → ∀ before settings registry refused between later,
      requests = before ++ .setup settings registry refused :: (between ++ .get :: later) →
      (∀ request ∈ between, request = .get) →
      reply (before ++ .setup settings registry refused :: between) .get =
        .ok (empty.run before).registered.length) := by
  refine ⟨⟨?_, ?_⟩, ?_⟩
  · intro serves
    refine ⟨serves.not_setUpLate, ?_⟩
    intro request member
    obtain ⟨before, later, parts⟩ := List.append_of_mem member
    obtain ⟨made, replied⟩ := serves.answered before request later parts
    exact refused?_of_reply replied
  · intro conditions
    obtain ⟨early, started⟩ := conditions
    apply serves_of_answered
    intro before request later parts
    refine exists_reply distinct early parts (started request ?_)
    rw [parts]
    exact List.mem_append_right before List.mem_cons_self
  · intro early before settings registry refused between later parts gets
    exact reply_get_after_setup distinct early parts gets

theorem serves_apart_from_default :
    let other : ObservabilitySettings := { ObservabilitySettings.default with metricsPort := 9100 }
    let requests : List Request := [.get, .setup .default (.custom 0) none, .get,
      .setup other (.custom 1) none, .get]
    (registries requests).Nodup ∧ Serves requests ∧
      reply [] .get = .ok 0 ∧ reply (requests.take 2) .get = reply [.get] (requests[1]) ∧
      reply (requests.take 4) .get ≠ reply [] .get := by
  intro other requests
  have distinct : (registries requests).Nodup := by decide
  have early : ¬SetUpLate requests := by
    intro ⟨rest, settings, refused, parts, asked⟩
    rw [← List.tail_eq_of_cons_eq parts] at asked
    simp at asked
  have started : ∀ request ∈ requests, request.refused? = none := by
    simp only [requests, List.forall_mem_cons, List.not_mem_nil, false_imp_iff, implies_true]
    exact ⟨rfl, rfl, rfl, rfl, rfl, trivial⟩
  have serves := (serves_iff_not_setUpLate distinct).1.mpr ⟨early, started⟩
  refine ⟨distinct, serves, rfl, ?_, ?_⟩
  · exact serves.latest [.get] .default (.custom 0) none [] _ rfl (List.forall_mem_nil _)
  · have latest := serves.latest (requests.take 3) other (.custom 1) none [] [] rfl
      (List.forall_mem_nil _)
    rw [show requests.take 4 = requests.take 3 ++ [requests[3]] from rfl]
    exact latest.trans_ne (serves.fresh [] .get (requests.tail.take 2) other (.custom 1) none _ rfl)

/-- Two requests, one for a set and one to set one up, neither of them made before. -/
theorem setup_after_get_refused :
    let requests : List Request := [.get, .setup .default .default none, .get]
    (registries requests).Nodup ∧ (∀ request ∈ requests, request.refused? = none) ∧
      ¬Serves requests ∧ reply [.get] (.setup .default .default none) = .error duplicate := by
  intro requests
  refine ⟨by decide, ?_, ?_, rfl⟩
  · simp only [requests, List.forall_mem_cons, List.not_mem_nil, false_imp_iff, implies_true]
    exact ⟨rfl, rfl, rfl, trivial⟩
  · intro serves
    obtain ⟨made, replied⟩ := serves.answered [.get] (.setup .default .default none) [.get] rfl
    cases replied

end InDoubt.Metering
