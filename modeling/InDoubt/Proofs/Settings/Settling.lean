import InDoubt.Recovery.Service

/-!
When ambient settings settle: at the first request for them under an environment that can be read.
Until then every request for them fails and nothing is kept; from then on all get the settings that
were read at that time, whatever the environment has become. Settings that are given do not depend
on any of this.
-/

namespace InDoubt

namespace Settings.Ambient

def found (host : Host) (ambient : Ambient) : Except Failure Settings :=
  match ambient.kept with
  | some settings => .ok settings
  | none => load host [] ambient.environment

theorem get_eq (host : Host) (ambient : Ambient) :
    ambient.get host =
      (ambient.found host, { ambient with kept := (ambient.found host).toOption }) := by
  obtain ⟨environment, kept⟩ := ambient
  cases kept with
  | some settings => rfl
  | none =>
      simp only [get, found]
      cases load host [] environment with
      | ok settings => rfl
      | error failure => rfl

theorem toOption_found (host : Host) (ambient : Ambient) :
    (ambient.found host).toOption =
      ambient.kept.or (load host [] ambient.environment).toOption := by
  obtain ⟨environment, kept⟩ := ambient
  cases kept with
  | some settings => rfl
  | none => rfl

end Settings.Ambient

namespace Process

open Settings (Environment load)

namespace Request

def consults : Request → Bool
  | .read | .serve none | .recoverThrough none _ => true
  | .change _ | .serve (some _) | .recover _ _ | .recoverThrough (some _) _ => false

def environment? : Request → Option Environment
  | .change environment => some environment
  | _ => none

def answerWith : Request → Settings → Answer
  | .read, settings => .settings settings
  | .serve _, settings => .service ⟨settings.recovery⟩
  | .recoverThrough _ connection, settings =>
      .trip (InDoubt.recover (.database connection) settings.recovery.statement)
  | .change _, _ | .recover _ _, _ => .done

end Request

theorem Answer.ofResult_map {α β : Type} (answer : β → Answer) (change : α → β)
    (result : Except Settings.Failure α) :
    ofResult answer (result.map change) = ofResult (fun found => answer (change found)) result := by
  cases result with
  | ok found => rfl
  | error failure => rfl

/-- What a request can lead to: the environment changes; or the ambient settings are asked for, and
kept if they are found; or neither. Services are only ever added. -/
inductive Steps (host : Settings.Host) (process : Process) : Request → Answer × Process → Prop
  | changed (environment : Environment) :
      Steps host process (.change environment)
        (.done, ⟨process.ambient.withEnvironment environment, process.services⟩)
  | asked {request : Request} {services : List Service} (consults : request.consults = true)
      (grown : process.services <+: services) :
      Steps host process request (.ofResult request.answerWith (process.ambient.found host),
        ⟨{ process.ambient with kept := (process.ambient.found host).toOption }, services⟩)
  | apart {request : Request} {answer : Answer} {services : List Service}
      (consultsNot : request.consults = false) (changesNot : request.environment? = none)
      (grown : process.services <+: services) :
      Steps host process request (answer, ⟨process.ambient, services⟩)

theorem steps_step (host : Settings.Host) (process : Process) (request : Request) :
    Steps host process request (process.step host request) := by
  cases request with
  | change environment => exact .changed environment
  | read =>
      rw [step, Settings.Ambient.get_eq]
      exact .asked rfl List.prefix_rfl
  | serve given =>
      cases given with
      | none =>
          simp only [step, Service.make, Settings.Ambient.recoverySettings, Settings.Ambient.get_eq,
            Answer.ofResult_map]
          exact .asked rfl (List.prefix_append ..)
      | some given => exact .apart rfl rfl (List.prefix_append ..)
  | recover position source =>
      rw [step]
      split
      · exact .apart rfl rfl List.prefix_rfl
      · exact .apart rfl rfl List.prefix_rfl
  | recoverThrough given connection =>
      cases given with
      | none =>
          simp only [step, InDoubt.recoverThrough, Service.make, Settings.Ambient.recoverySettings,
            Settings.Ambient.get_eq, Answer.ofResult_map]
          exact .asked rfl List.prefix_rfl
      | some given => exact .apart rfl rfl List.prefix_rfl

variable (host : Settings.Host) (process : Process) (request : Request)

theorem answer_of_consults {request : Request} (consults : request.consults = true) :
    process.answer host request = .ofResult request.answerWith (process.ambient.found host) := by
  have steps := steps_step host process request
  unfold answer
  generalize process.step host request = outcome at steps ⊢
  cases steps with
  | changed environment => cases consults
  | asked _ grown => rfl
  | apart consultsNot changesNot grown => simp [consultsNot] at consults

theorem environment_after :
    (process.after host request).ambient.environment =
      request.environment?.getD process.ambient.environment := by
  have steps := steps_step host process request
  unfold after
  generalize process.step host request = outcome at steps ⊢
  cases steps with
  | changed environment => rfl
  | asked consults grown =>
      have changesNot : request.environment? = none := by
        cases request with
        | change environment => cases consults
        | _ => rfl
      rw [changesNot]
      rfl
  | apart consultsNot changesNot grown => rw [changesNot]; rfl

theorem kept_after :
    (process.after host request).ambient.kept =
      if request.consults then
        process.ambient.kept.or (load host [] process.ambient.environment).toOption
      else process.ambient.kept := by
  have steps := steps_step host process request
  unfold after
  generalize process.step host request = outcome at steps ⊢
  cases steps with
  | changed environment => rfl
  | asked consults grown => rw [if_pos consults, ← Settings.Ambient.toOption_found]
  | apart consultsNot changesNot grown => rw [consultsNot]; rfl

theorem services_prefix_after : process.services <+: (process.after host request).services := by
  have steps := steps_step host process request
  unfold after
  generalize process.step host request = outcome at steps ⊢
  cases steps with
  | changed environment => exact List.prefix_rfl
  | asked consults grown => exact grown
  | apart consultsNot changesNot grown => exact grown

theorem run_append (first later : List Request) :
    process.run host (first ++ later) = (process.run host first).run host later := List.foldl_append

def environmentAfter (environment : Environment) (requests : List Request) : Environment :=
  requests.foldl (fun current request => request.environment?.getD current) environment

def consulted (environment : Environment) : List Request → List Environment
  | [] => []
  | request :: rest =>
      let later := consulted (request.environment?.getD environment) rest
      if request.consults then environment :: later else later

theorem consulted_append (environment : Environment) (first later : List Request) :
    consulted environment (first ++ later) =
      consulted environment first ++ consulted (environmentAfter environment first) later := by
  induction first generalizing environment with
  | nil => rfl
  | cons request rest restConsulted =>
      simp only [List.cons_append, consulted, restConsulted]
      split
      · rfl
      · rfl

theorem environment_run (requests : List Request) :
    (process.run host requests).ambient.environment =
      environmentAfter process.ambient.environment requests := by
  induction requests generalizing process with
  | nil => rfl
  | cons request rest restEnvironment =>
      rw [run, List.foldl_cons, ← run, restEnvironment, environment_after]
      rfl

def readable? (host : Settings.Host) (environment : Environment) : Option Settings :=
  (load host [] environment).toOption

theorem kept_run (requests : List Request) :
    (process.run host requests).ambient.kept = process.ambient.kept.or
      ((consulted process.ambient.environment requests).findSome? (readable? host)) := by
  induction requests generalizing process with
  | nil => exact (Option.or_none).symm
  | cons request rest restKept =>
      rw [run, List.foldl_cons, ← run, restKept, environment_after, kept_after, consulted]
      split
      · rw [List.findSome?_cons, Option.or_assoc, readable?]
        cases (load host [] process.ambient.environment).toOption with
        | none => rfl
        | some settings => rfl
      · rfl

theorem services_prefix_run (requests : List Request) :
    process.services <+: (process.run host requests).services := by
  induction requests generalizing process with
  | nil => exact List.prefix_rfl
  | cons request rest restGrown =>
      exact (services_prefix_after host process request).trans
        (restGrown (process.after host request))

variable {host}

/-- The ambient settings were never asked for under an environment that can be read. -/
def Unsettled (host : Settings.Host) (environment : Environment) (requests : List Request) : Prop :=
  ∀ current ∈ consulted environment requests, ∀ settings, load host [] current ≠ .ok settings

theorem findSome?_of_unsettled {environment : Environment} {requests : List Request}
    (unsettled : Unsettled host environment requests) :
    (consulted environment requests).findSome? (readable? host) = none := by
  rw [List.findSome?_eq_none_iff]
  intro current member
  have unreadable := unsettled current member
  unfold readable?
  cases read : load host [] current with
  | ok settings => exact absurd read (unreadable settings)
  | error failure => rfl

def course (host : Settings.Host) (environment : Environment) (requests : List Request) : Process :=
  (start environment).run host requests

theorem kept_course (host : Settings.Host) (environment : Environment) (requests : List Request) :
    (course host environment requests).ambient.kept =
      (consulted environment requests).findSome? (readable? host) := by
  rw [course, kept_run]
  rfl

theorem found_of_unsettled {environment : Environment} {requests : List Request}
    (unsettled : Unsettled host environment requests) :
    (course host environment requests).ambient.found host =
      load host [] (environmentAfter environment requests) := by
  rw [Settings.Ambient.found, kept_course, findSome?_of_unsettled unsettled, course,
    environment_run]
  rfl

theorem found_of_first {environment : Environment} {before : List Request} {first : Request}
    {settings : Settings} (consults : first.consults = true)
    (unsettled : Unsettled host environment before)
    (read : load host [] (environmentAfter environment before) = .ok settings)
    (between : List Request) :
    (course host environment (before ++ first :: between)).ambient.found host = .ok settings := by
  have kept : (course host environment (before ++ first :: between)).ambient.kept =
      some settings := by
    rw [kept_course, consulted_append, List.findSome?_append, findSome?_of_unsettled unsettled,
      consulted, if_pos consults, List.findSome?_cons, readable?, read]
    rfl
  rw [Settings.Ambient.found, kept]

/-- How a process that starts under an environment comes by its settings. -/
structure Settles (host : Settings.Host) (environment : Environment) : Prop where
  failing : ∀ before request, request.consults = true →
    Unsettled host environment (before ++ [request]) →
    ∃ failure, load host [] (environmentAfter environment before) = .error failure ∧
      (course host environment before).answer host request = .refused failure ∧
      (course host environment (before ++ [request])).ambient.kept = none
  settled : ∀ before first settings, first.consults = true → Unsettled host environment before →
    load host [] (environmentAfter environment before) = .ok settings →
    (course host environment before).answer host first = first.answerWith settings ∧
    ∀ between request, request.consults = true →
      (course host environment (before ++ first :: between)).answer host request =
        request.answerWith settings
  given : ∀ before settings connection,
    (course host environment before).answer host (.serve (some settings)) = .service ⟨settings⟩ ∧
    (course host environment before).answer host (.recoverThrough (some settings) connection) =
      .trip (InDoubt.recover (.database connection) settings.statement)
  served : ∀ before given service between source,
    (course host environment before).answer host (.serve given) = .service service →
    (course host environment (before ++ .serve given :: between)).answer host
        (.recover (course host environment before).services.length source) =
      .trip (InDoubt.recover source service.settings.statement)

theorem services_of_served {process : Process} {given : Option RecoverySettings}
    {service : Service} (answered : process.answer host (.serve given) = .service service) :
    (process.after host (.serve given)).services = process.services ++ [service] := by
  simp only [answer, step] at answered
  simp only [after, step]
  cases made : (Service.make host process.ambient given).1 with
  | error failure =>
      rw [made] at answered
      cases answered
  | ok other =>
      rw [made] at answered
      cases answered
      rfl

theorem service_run {process : Process} {given : Option RecoverySettings} {service : Service}
    (answered : process.answer host (.serve given) = .service service) (between : List Request) :
    (process.run host (.serve given :: between)).services[process.services.length]? =
      some service := by
  have grown := services_prefix_run host (process.after host (.serve given)) between
  rw [services_of_served answered] at grown
  obtain ⟨more, same⟩ := grown
  rw [run, List.foldl_cons, ← run, ← same, List.getElem?_append_left, List.getElem?_concat_length]
  rw [List.length_append]
  exact Nat.lt_succ_self _

end Process

end InDoubt
