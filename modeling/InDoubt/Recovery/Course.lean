import InDoubt.Fault
import InDoubt.Observation.Event
import InDoubt.Observation.Tally

/-!
Courses: acts that follow one another until one of them fails or all are done. What was done before
a failure stays done, so a course keeps its acts beside its result.
-/

namespace InDoubt

inductive Call where
  | cursor
  | execute (statement : Value)
  | fetchAll
  | close
  | catalog (statement : Value)

/-- What recovery does that can be seen from outside, and the rows that it takes up. -/
inductive Act where
  | call (made : Call)
  | row (taken : Value)
  | count (increase : Increase)
  | log (event : Event)

namespace Act

def call? : Act → Option Call
  | .call made => some made
  | _ => none

def row? : Act → Option Value
  | .row taken => some taken
  | _ => none

def increase? : Act → Option Increase
  | .count increase => some increase
  | _ => none

def event? : Act → Option Event
  | .log event => some event
  | _ => none

end Act

structure Course (α : Type) where
  result : Except Fault α
  acts : List Act

namespace Course

variable {α β : Type}

def ofResult (result : Except Fault α) : Course α := ⟨result, []⟩

def fail (fault : Fault) : Course α := ofResult (.error fault)

def act (act : Act) : Course Unit := ⟨.ok (), [act]⟩

def andThen (first : Course α) (next : α → Course β) : Course β :=
  match first.result with
  | .ok found => ⟨(next found).result, first.acts ++ (next found).acts⟩
  | .error fault => ⟨.error fault, first.acts⟩

instance : Monad Course where
  pure found := ofResult (.ok found)
  bind := andThen

def rescue (course : Course α) (handle : Fault → Course α) : Course α :=
  match course.result with
  | .ok _ => course
  | .error fault => ⟨(handle fault).result, course.acts ++ (handle fault).acts⟩

def wrapping (place : String) (course : Course α) : Course α :=
  course.rescue fun fault => fail (fault.wrapOrdinary place)

theorem bind_of_ok {first : Course α} {next : α → Course β} {found : α}
    (succeeded : first.result = .ok found) :
    first >>= next = ⟨(next found).result, first.acts ++ (next found).acts⟩ := by
  change first.andThen next = _
  simp only [andThen, succeeded]

theorem bind_of_error {first : Course α} {next : α → Course β} {fault : Fault}
    (failed : first.result = .error fault) : first >>= next = ⟨.error fault, first.acts⟩ := by
  change first.andThen next = _
  simp only [andThen, failed]

theorem rescue_of_ok {course : Course α} {handle : Fault → Course α} {found : α}
    (succeeded : course.result = .ok found) : course.rescue handle = course := by
  simp only [rescue, succeeded]

theorem rescue_of_error {course : Course α} {handle : Fault → Course α} {fault : Fault}
    (failed : course.result = .error fault) :
    course.rescue handle = ⟨(handle fault).result, course.acts ++ (handle fault).acts⟩ := by
  simp only [rescue, failed]

@[simp] theorem result_act (done : Act) : (act done).result = .ok () := rfl

@[simp] theorem result_ofResult (result : Except Fault α) : (ofResult result).result = result := rfl

@[simp] theorem result_fail (fault : Fault) : (fail fault : Course α).result = .error fault := rfl

@[simp] theorem acts_act (done : Act) : (act done).acts = [done] := rfl

@[simp] theorem result_pure (found : α) : (pure found : Course α).result = .ok found := rfl

@[simp] theorem result_bind (first : Course α) (next : α → Course β) :
    (first >>= next).result = first.result >>= fun found => (next found).result := by
  cases reached : first.result with
  | error fault => rw [bind_of_error reached]; rfl
  | ok found => rw [bind_of_ok reached]; rfl

@[simp] theorem result_wrapping (place : String) (course : Course α) :
    (course.wrapping place).result = course.result.mapError (·.wrapOrdinary place) := by
  cases reached : course.result with
  | error fault => rw [wrapping, rescue_of_error reached]; rfl
  | ok found => rw [wrapping, rescue_of_ok reached, reached]; rfl

@[simp] theorem acts_wrapping (place : String) (course : Course α) :
    (course.wrapping place).acts = course.acts := by
  cases reached : course.result with
  | error fault => rw [wrapping, rescue_of_error reached]; exact List.append_nil course.acts
  | ok found => rw [wrapping, rescue_of_ok reached]

def calls (course : Course α) : List Call := course.acts.filterMap Act.call?

def events (course : Course α) : List Event := course.acts.filterMap Act.event?

end Course

end InDoubt
