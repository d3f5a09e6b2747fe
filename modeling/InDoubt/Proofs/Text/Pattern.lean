import InDoubt.Text.Pattern

namespace InDoubt.Text

namespace Way

variable {way : Way} {codes : List Nat}

/-- The way takes characters of a set from the front of a text and holds no group. -/
structure Runs (way : Way) (set : CharacterSet) (codes : List Nat) : Prop where
  joined : way.taken ++ way.rest = codes
  admitted : ∀ code ∈ way.taken, set.admits code = true
  groupless : way.groups = []

theorem runs_nothing (set : CharacterSet) (codes : List Nat) : (nothing codes).Runs set codes :=
  ⟨rfl, fun _ member => absurd member List.not_mem_nil, rfl⟩

theorem Runs.including {set : CharacterSet} {code : Nat} (runs : way.Runs set codes)
    (admitted : set.admits code = true) : (way.including code).Runs set (code :: codes) :=
  ⟨congrArg (code :: ·) runs.joined, List.forall_mem_cons.mpr ⟨admitted, runs.admitted⟩,
    runs.groupless⟩

theorem Runs.eq_nothing_or_including {set : CharacterSet} {code : Nat}
    (runs : way.Runs set (code :: codes)) :
    way = nothing (code :: codes) ∨
      set.admits code = true ∧ ∃ shorter : Way, shorter.Runs set codes ∧
        shorter.including code = way := by
  obtain ⟨taken, rest, groups⟩ := way
  obtain ⟨joined, admitted, rfl⟩ := runs
  cases taken with
  | nil =>
      cases joined
      exact .inl rfl
  | cons first others =>
      cases joined
      obtain ⟨firstAdmitted, othersAdmitted⟩ := List.forall_mem_cons.mp admitted
      exact .inr ⟨firstAdmitted, ⟨others, rest, []⟩, ⟨rfl, othersAdmitted, rfl⟩, rfl⟩

end Way

theorem CharacterSet.mem_runs_iff {set : CharacterSet} {codes : List Nat} {way : Way} :
    way ∈ set.runs codes ↔ way.Runs set codes := by
  induction codes generalizing way with
  | nil =>
      rw [runs, List.mem_singleton]
      constructor
      · rintro rfl
        exact Way.runs_nothing set []
      · obtain ⟨taken, rest, groups⟩ := way
        rintro ⟨joined, -, rfl⟩
        obtain ⟨rfl, rfl⟩ := List.append_eq_nil_iff.mp joined
        rfl
  | cons code rest restRuns =>
      constructor
      · intro member
        rw [runs] at member
        split at member
        · next admitted =>
          rcases List.mem_append.mp member with longer | shortest
          · obtain ⟨shorter, shorterMember, rfl⟩ := List.mem_map.mp longer
            exact (restRuns.mp shorterMember).including admitted
          · cases List.mem_singleton.mp shortest
            exact Way.runs_nothing set _
        · cases List.mem_singleton.mp member
          exact Way.runs_nothing set _
      · intro takes
        rw [runs]
        rcases takes.eq_nothing_or_including with rfl | ⟨admitted, shorter, shorterRuns, rfl⟩
        · split <;> simp
        · rw [if_pos admitted]
          exact List.mem_append_left _ (List.mem_map_of_mem (restRuns.mpr shorterRuns))

namespace Pattern

variable {codes : List Nat} {way : Way} {atStart : Bool}

theorem mem_ways_start :
    way ∈ start.ways atStart codes ↔ atStart = true ∧ way = .nothing codes := by
  cases atStart <;> simp [ways]

theorem mem_ways_ending :
    way ∈ ending.ways atStart codes ↔ (codes = [] ∨ codes = [newline]) ∧ way = .nothing codes := by
  unfold ways
  split
  · next closes => simp [closes]
  · next midst => simp [midst]

theorem mem_ways_character {set : CharacterSet} :
    way ∈ (character set).ways atStart codes ↔
      ∃ code rest, codes = code :: rest ∧ set.admits code = true ∧ way = ⟨[code], rest, []⟩ := by
  constructor
  · intro member
    cases codes with
    | nil => cases member
    | cons code rest =>
        unfold ways at member
        split at member
        · next admitted => exact ⟨code, rest, rfl, admitted, List.mem_singleton.mp member⟩
        · cases member
  · rintro ⟨code, rest, rfl, admitted, rfl⟩
    rw [ways, if_pos admitted, List.mem_singleton]

theorem mem_ways_repeated {least : Nat} {set : CharacterSet} :
    way ∈ (repeated least set).ways atStart codes ↔
      way.Runs set codes ∧ least ≤ way.taken.length := by
  rw [ways, List.mem_filter, CharacterSet.mem_runs_iff, decide_eq_true_iff]

theorem mem_ways_group {number : Nat} {inner : Pattern} :
    way ∈ (group number inner).ways atStart codes ↔
      ∃ inside ∈ inner.ways atStart codes, inside.grouped number = way := by
  rw [ways, List.mem_map]

theorem mem_ways_sequence {first second : Pattern} :
    way ∈ (sequence first second).ways atStart codes ↔
      ∃ front ∈ first.ways atStart codes,
        ∃ back ∈ second.ways (atStart && front.taken.isEmpty) front.rest,
          front.followedBy back = way := by
  simp only [ways, List.mem_flatMap, List.mem_map]

theorem mem_ways_start_then {next : Pattern} :
    way ∈ (sequence start next).ways true codes ↔ way ∈ next.ways true codes := by
  have alone : ∀ back : Way, (Way.nothing codes).followedBy back = back := fun _ => rfl
  rw [mem_ways_sequence]
  constructor
  · rintro ⟨front, frontMember, back, backMember, rfl⟩
    obtain ⟨-, rfl⟩ := mem_ways_start.mp frontMember
    exact backMember
  · intro member
    exact ⟨.nothing codes, mem_ways_start.mpr ⟨rfl, rfl⟩, way, member, alone way⟩

theorem mem_ways_only_then {code : Nat} {next : Pattern} :
    way ∈ (sequence (character (.only code)) next).ways atStart codes ↔
      ∃ rest, codes = code :: rest ∧ ∃ back ∈ next.ways false rest,
        way = ⟨code :: back.taken, back.rest, back.groups⟩ := by
  rw [mem_ways_sequence]
  constructor
  · rintro ⟨front, frontMember, back, backMember, rfl⟩
    obtain ⟨same, rest, rfl, admitted, rfl⟩ := mem_ways_character.mp frontMember
    cases of_decide_eq_true admitted
    rw [List.isEmpty_cons, Bool.and_false] at backMember
    exact ⟨rest, rfl, back, backMember, rfl⟩
  · rintro ⟨rest, rfl, back, backMember, rfl⟩
    have admitted : (CharacterSet.only code).admits code = true := decide_eq_true rfl
    have front : ⟨[code], rest, []⟩ ∈ (character (.only code)).ways atStart (code :: rest) :=
      mem_ways_character.mpr ⟨code, rest, rfl, admitted, rfl⟩
    refine ⟨_, front, back, ?_, rfl⟩
    rw [List.isEmpty_cons, Bool.and_false]
    exact backMember

theorem mem_ways_group_then {number least : Nat} {set : CharacterSet} {next : Pattern} :
    way ∈ (sequence (group number (repeated least set)) next).ways atStart codes ↔
      ∃ part rest, part ++ rest = codes ∧ least ≤ part.length ∧
        (∀ code ∈ part, set.admits code = true) ∧
        ∃ back ∈ next.ways (atStart && part.isEmpty) rest,
          way = ⟨part ++ back.taken, back.rest, (number, part) :: back.groups⟩ := by
  rw [mem_ways_sequence]
  constructor
  · rintro ⟨front, frontMember, back, backMember, rfl⟩
    obtain ⟨⟨part, rest, groups⟩, insideMember, rfl⟩ := mem_ways_group.mp frontMember
    obtain ⟨⟨joined, admitted, rfl⟩, enough⟩ := mem_ways_repeated.mp insideMember
    exact ⟨part, rest, joined, enough, admitted, back, backMember, rfl⟩
  · rintro ⟨part, rest, joined, enough, admitted, back, backMember, rfl⟩
    have inside : ⟨part, rest, []⟩ ∈ (repeated least set).ways atStart codes :=
      mem_ways_repeated.mpr ⟨⟨joined, admitted, rfl⟩, enough⟩
    exact ⟨_, mem_ways_group.mpr ⟨_, inside, rfl⟩, back, backMember, rfl⟩

theorem isWhole_iff : way.isWhole = true ↔ way.rest = [] := List.isEmpty_iff

theorem exists_way_of_wholeMatch? {pattern : Pattern} {found : Groups}
    (matched : pattern.wholeMatch? codes = some found) :
    ∃ way ∈ pattern.ways true codes, way.rest = [] ∧ way.groups = found := by
  obtain ⟨way, first, same⟩ := Option.map_eq_some_iff.mp matched
  exact ⟨way, List.mem_of_find?_eq_some first, isWhole_iff.mp (List.find?_some first), same⟩

theorem wholeMatch?_of_agreement {pattern : Pattern} {found : Groups}
    (possible : ∃ way ∈ pattern.ways true codes, way.rest = [])
    (agreement : ∀ way ∈ pattern.ways true codes, way.rest = [] → way.groups = found) :
    pattern.wholeMatch? codes = some found := by
  obtain ⟨way, member, whole⟩ := possible
  have tried : ((pattern.ways true codes).find? Way.isWhole).isSome := by
    rw [List.find?_isSome]
    exact ⟨way, member, isWhole_iff.mpr whole⟩
  obtain ⟨first, isFirst⟩ := Option.isSome_iff_exists.mp tried
  have firstWhole := isWhole_iff.mp (List.find?_some isFirst)
  rw [wholeMatch?, isFirst, Option.map_some,
    agreement first (List.mem_of_find?_eq_some isFirst) firstWhole]

end Pattern

end InDoubt.Text
