import InDoubt.Proofs.Outcome
import InDoubt.Proofs.Settings.Entries
import InDoubt.Proofs.Settings.IntegerText
import InDoubt.Proofs.Value.Printed

namespace InDoubt

open Outcome

namespace Settings

inductive Setting where
  | statement
  | logLevel
  | logFormat
  | metricsPort
  | otelEndpoint
  | otelServiceName
  deriving DecidableEq, Repr

namespace Setting

def all : List Setting :=
  [.statement, .logLevel, .logFormat, .metricsPort, .otelEndpoint, .otelServiceName]

theorem mem_all (setting : Setting) : setting ∈ all := by
  cases setting <;> decide

def part : Setting → Section
  | .statement => recoverySection
  | _ => observabilitySection

def label : Setting → String
  | .statement => "statement"
  | .logLevel => "log_level"
  | .logFormat => "log_format"
  | .metricsPort => "metrics_port"
  | .otelEndpoint => "otel_endpoint"
  | .otelServiceName => "otel_service_name"

def path (setting : Setting) : List String := [setting.part.name, setting.label]

@[reducible] def Content : Setting → Type
  | .statement => String
  | .logLevel => Level
  | .logFormat => LogFormat
  | .metricsPort => Nat
  | .otelEndpoint => Option GivenText
  | .otelServiceName => GivenText

end Setting

def held (settings : Settings) : (setting : Setting) → setting.Content
  | .statement => settings.recovery.statement
  | .logLevel => settings.observability.logLevel
  | .logFormat => settings.observability.logFormat
  | .metricsPort => settings.observability.metricsPort
  | .otelEndpoint => settings.observability.otelEndpoint
  | .otelServiceName => settings.observability.otelServiceName

def ofContents (content : (setting : Setting) → setting.Content) : Settings :=
  ⟨⟨content .statement⟩, ⟨content .logLevel, content .logFormat, content .metricsPort,
    content .otelEndpoint, content .otelServiceName⟩⟩

theorem held_ofContents (content : (setting : Setting) → setting.Content) (setting : Setting) :
    (ofContents content).held setting = content setting := by
  cases setting with
  | _ => rfl

theorem eq_of_held_eq {settings others : Settings}
    (same : ∀ setting, settings.held setting = others.held setting) : settings = others :=
  calc settings = ofContents settings.held := rfl
    _ = ofContents others.held := congrArg ofContents (funext same)
    _ = others := rfl

/-! ### Texts -/

def utf8 (text : String) : List UInt8 := text.toByteArray.data.toList

theorem utf8Text?_eq_some_iff {bytes : List UInt8} {text : String} :
    utf8Text? bytes = some text ↔ bytes = utf8 text := by
  unfold utf8Text? String.fromUTF8? utf8
  constructor
  · intro found
    split at found
    · cases found
      rfl
    · cases found
  · intro same
    subst same
    exact dif_pos text.isValidUTF8

variable {host : Host}

/-- A value that counts as a text: the text itself, whole or broken, its UTF-8 bytes, the member of
an enumeration as the text of what it stands for, or a value of a class that is taken for one. -/
inductive CountsAs (host : Host) : Value → GivenText → Prop
  | whole (text : String) : CountsAs host (.text text) (.whole text)
  | broken (codes : List Nat) (broken : codes.all Text.isCharacter = false) :
      CountsAs host (.brokenText codes broken) (.broken codes)
  | bytes (text : String) : CountsAs host (.bytes (utf8 text)) (.whole text)
  | member {number : Int} {look : Look} {text : String} (stands : look.memberText? = some text) :
      CountsAs host (.derived number look) (.whole text)
  | foreign {value : Value} {text : GivenText} (foreign : value.isForeign = true)
      (taken : host.text value = .ok text) : CountsAs host value text

theorem readGivenText_eq_ok_iff {value : Value} {given : GivenText} :
    readGivenText host value = .ok given ↔ CountsAs host value given := by
  unfold readGivenText
  constructor
  · intro read
    split at read
    next foreign => exact .foreign foreign read
    next =>
      split at read
      next text _ =>
        cases read
        exact .whole text
      next codes broken _ =>
        cases read
        exact .broken codes broken
      next bytes _ =>
        split at read
        next decoded found =>
          cases read
          rw [utf8Text?_eq_some_iff.mp found]
          exact .bytes decoded
        next => cases read
      next look _ =>
        split at read
        next text stands =>
          cases read
          exact .member stands
        next => cases read
      next => cases read
  · intro counts
    cases counts with
    | whole text => rfl
    | broken codes broken => rfl
    | bytes text =>
        rw [if_neg (by simp [Value.isForeign])]
        simp only [utf8Text?_eq_some_iff.mpr rfl]
    | member stands =>
        rw [if_neg (by simp [Value.isForeign])]
        simp only [stands]
    | foreign foreign taken => rw [if_pos foreign, taken]

theorem readText_eq_ok_iff {value : Value} {text : String} :
    readText host value = .ok text ↔ CountsAs host value (.whole text) := by
  rw [readText, bind_eq_ok_iff, ← readGivenText_eq_ok_iff]
  constructor
  · rintro ⟨given, read, whole⟩
    split at whole
    · cases whole
      exact read
    · cases whole
  · intro read
    exact ⟨.whole text, read, rfl⟩

theorem readNonemptyText_eq_ok_iff {value : Value} {text : String} :
    readNonemptyText host value = .ok text ↔ text ≠ "" ∧ CountsAs host value (.whole text) := by
  rw [readNonemptyText, bind_eq_ok_iff]
  constructor
  · rintro ⟨found, read, nonempty⟩
    split at nonempty
    · cases nonempty
    next some =>
      cases nonempty
      exact ⟨by simpa using some, readText_eq_ok_iff.mp read⟩
  · rintro ⟨nonempty, counts⟩
    exact ⟨text, readText_eq_ok_iff.mpr counts, if_neg (by simpa using nonempty)⟩

theorem readOptionalText_eq_ok_iff {value : Value} {given : Option GivenText} :
    readOptionalText host value = .ok given ↔
      given = none ∧ value = .null ∨ ∃ text, given = some text ∧ CountsAs host value text := by
  unfold readOptionalText
  cases isNull : value.isNull with
  | true =>
      have null : value = .null := by
        cases value with
        | null => rfl
        | _ => cases isNull
      subst null
      simp only [if_true, Except.ok.injEq, and_true]
      refine ⟨fun same => .inl same.symm, ?_⟩
      rintro (none | ⟨text, _, counts⟩)
      · exact none.symm
      · cases counts with
        | foreign foreign _ => cases foreign
  | false =>
      have notNull : value ≠ .null := fun null => by
        subst null
        cases isNull
      simp only [Bool.false_eq_true, if_false, map_eq_ok_iff, readGivenText_eq_ok_iff, notNull,
        and_false, false_or]
      refine exists_congr fun text => ?_
      rw [and_comm, eq_comm]

/-! ### Choices -/

theorem lookup_eq_some_iff_mem {α : Type} {choices : List (String × α)} {name : String} {choice : α}
    (apart : (choices.map Prod.fst).Nodup) :
    choices.lookup name = some choice ↔ (name, choice) ∈ choices := by
  induction choices with
  | nil => simp
  | cons first rest restLookup =>
      obtain ⟨known, held⟩ := first
      obtain ⟨fresh, restApart⟩ := List.nodup_cons.mp apart
      rw [List.lookup_cons, List.mem_cons, Prod.mk.injEq]
      by_cases same : name = known
      · subst same
        have absent : (name, choice) ∉ rest := fun member =>
          fresh (List.mem_map.mpr ⟨(name, choice), member, rfl⟩)
        simp [absent, eq_comm]
      · simp only [beq_false_of_ne same, same, false_and, false_or]
        exact restLookup restApart

inductive CountsAsWord (host : Host) : Value → String → Prop
  | text (text : String) : CountsAsWord host (.text text) text
  | foreign {value : Value} {text : String} (foreign : value.isForeign = true)
      (taken : host.word value = .ok text) : CountsAsWord host value text

theorem readWord_eq_ok_iff {value : Value} {text : String} :
    readWord host value = .ok text ↔ CountsAsWord host value text := by
  unfold readWord
  constructor
  · intro read
    split at read
    next foreign => exact .foreign foreign read
    next =>
      split at read
      next given =>
        cases read
        exact .text text
      next => cases read
      next => cases read
  · intro counts
    cases counts with
    | text => rfl
    | foreign foreign taken => rw [if_pos foreign, taken]

theorem readChoice_eq_ok_iff {α : Type} {choices : List (String × α)} {value : Value} {choice : α}
    (apart : (choices.map Prod.fst).Nodup) :
    readChoice host choices value = .ok choice ↔
      ∃ name, CountsAsWord host value name ∧ (name, choice) ∈ choices := by
  rw [readChoice, bind_eq_ok_iff]
  refine exists_congr fun name => ?_
  rw [readWord_eq_ok_iff, ← lookup_eq_some_iff_mem apart]
  cases choices.lookup name with
  | some found => simp
  | none => simp

/-! ### Integers -/

/-- A value that counts as a whole number: a number that equals it, a text for it, which may be
given as UTF-8 bytes, or a value of a class that is taken for one. -/
inductive CountsAsInteger (host : Host) : Value → Int → Prop
  | number {value : Value} {number : Number} {whole : Int} (isNumber : value.number? = some number)
      (same : number.same (.int whole) = true) : CountsAsInteger host value whole
  | text {text : String} {whole : Int} (spelled : IntegerText text.toList whole) :
      CountsAsInteger host (.text text) whole
  | bytes {text : String} {whole : Int} (spelled : IntegerText text.toList whole) :
      CountsAsInteger host (.bytes (utf8 text)) whole
  | foreign {value : Value} {whole : Int} (foreign : value.isForeign = true)
      (taken : host.integer value = .ok whole) : CountsAsInteger host value whole

theorem toInt?_eq_some_iff {number : Binary64} {whole : Int} :
    number.toInt? = some whole ↔ number.equalsInt whole = true := by
  have nonzero : (Binary64.one : Int) ≠ 0 :=
    Int.natCast_ne_zero.mpr (Nat.ne_of_gt Binary64.one_pos)
  unfold Binary64.toInt? Binary64.equalsInt
  cases number.units? with
  | none => simp
  | some units =>
      generalize (Binary64.one : Int) = unit at nonzero
      simp only [Option.bind_eq_bind, Option.bind_some, beq_iff_eq, Option.some_inj]
      constructor
      · intro found
        split at found
        next divides =>
          cases found
          exact (Int.ediv_mul_cancel (Int.dvd_of_emod_eq_zero divides)).symm
        next => cases found
      · intro same
        subst same
        rw [if_pos (Int.mul_emod_left whole unit), Int.mul_ediv_cancel whole nonzero]

theorem readInteger_float_eq_ok_iff {number : Binary64} {whole : Int}
    (small : whole.natAbs < 0x8000000000000000) :
    readInteger host (.float number) = .ok whole ↔ number.equalsInt whole = true := by
  rw [← toInt?_eq_some_iff, readInteger, if_neg (by simp [Value.isForeign])]
  cases number with
  | infinite negative => simp [Binary64.isFinite, Binary64.toInt?, Binary64.units?]
  | finite negative units =>
      simp only [Binary64.isFinite, Bool.not_true, Bool.false_eq_true, if_false]
      cases (Binary64.finite negative units).toInt? with
      | none => simp
      | some found =>
          simp only [Option.some_inj]
          split
          next => simp
          next large =>
            refine iff_of_false (fun same => by cases same) ?_
            rintro rfl
            exact large small

theorem number?_of_isForeign {value : Value} (foreign : value.isForeign = true) :
    value.number? = none := by
  cases value with
  | object _ _ _ | feed _ _ _ _ _ | sealed _ _ _ _ => rfl
  | _ => cases foreign

theorem countsAsInteger_iff_same {value : Value} {number : Number} {whole : Int}
    (isNumber : value.number? = some number) :
    CountsAsInteger host value whole ↔ number.same (.int whole) = true := by
  refine ⟨fun counts => ?_, .number isNumber⟩
  cases counts with
  | number isNumber' same =>
      cases isNumber.symm.trans isNumber'
      exact same
  | text spelled => cases isNumber
  | bytes spelled => cases isNumber
  | foreign foreign _ => cases isNumber.symm.trans (number?_of_isForeign foreign)

theorem countsAsInteger_text_iff {text : String} {whole : Int} :
    CountsAsInteger host (.text text) whole ↔ IntegerText text.toList whole := by
  refine ⟨fun counts => ?_, .text⟩
  cases counts with
  | number isNumber same => cases isNumber
  | text spelled => exact spelled
  | foreign foreign _ => cases foreign

theorem countsAsInteger_bytes_iff {bytes : List UInt8} {whole : Int} :
    CountsAsInteger host (.bytes bytes) whole ↔
      ∃ text, bytes = utf8 text ∧ IntegerText text.toList whole := by
  constructor
  · intro counts
    cases counts with
    | number isNumber same => cases isNumber
    | bytes spelled => exact ⟨_, rfl, spelled⟩
    | foreign foreign _ => cases foreign
  · rintro ⟨text, rfl, spelled⟩
    exact .bytes spelled

theorem countsAsInteger_foreign_iff {value : Value} {whole : Int}
    (foreign : value.isForeign = true) :
    CountsAsInteger host value whole ↔ host.integer value = .ok whole := by
  refine ⟨fun counts => ?_, .foreign foreign⟩
  cases counts with
  | number isNumber same => cases isNumber.symm.trans (number?_of_isForeign foreign)
  | text spelled => cases foreign
  | bytes spelled => cases foreign
  | foreign _ taken => exact taken

theorem readInteger_eq_ok_iff {value : Value} {whole : Int}
    (small : whole.natAbs < 0x8000000000000000) :
    readInteger host value = .ok whole ↔ CountsAsInteger host value whole := by
  have digits : whole.natAbs < 10 ^ 19 := Nat.lt_trans small (by decide)
  have short : whole.natAbs < 10 ^ maxPrintedDigits := short_of_lt_pow digits (by decide)
  by_cases foreign : value.isForeign = true
  · rw [countsAsInteger_foreign_iff foreign, readInteger.eq_def, if_pos foreign]
  rw [readInteger.eq_def, if_neg foreign]
  cases value with
  | bool given =>
      have isNumber : (Value.bool given).number? = some (.int (if given then 1 else 0)) := rfl
      simp [countsAsInteger_iff_same isNumber, Number.same]
  | int given =>
      have isNumber : (Value.int given).number? = some (.int given) := rfl
      simp [countsAsInteger_iff_same isNumber, Number.same]
  | derived given look =>
      have isNumber : (Value.derived given look).number? = some (.int given) := rfl
      simp [countsAsInteger_iff_same isNumber, Number.same]
  | float given =>
      have isNumber : (Value.float given).number? = some (.float given) := rfl
      have read : readInteger host (.float given) = .ok whole ↔ given.equalsInt whole = true :=
        readInteger_float_eq_ok_iff small
      rw [readInteger, if_neg foreign] at read
      rw [read, countsAsInteger_iff_same isNumber, Number.same]
  | notANumber identity =>
      have isNumber : (Value.notANumber identity).number? = some .notANumber := rfl
      simp [countsAsInteger_iff_same isNumber, Number.same]
  | text given =>
      rw [countsAsInteger_text_iff, readIntegerText_eq_ok_iff]
      exact and_iff_left short
  | bytes given =>
      rw [countsAsInteger_bytes_iff]
      cases found : utf8Text? given with
      | none =>
          simp only [found, reduceCtorEq, false_iff, not_exists, not_and]
          intro text same
          cases found.symm.trans (utf8Text?_eq_some_iff.mpr same)
      | some text =>
          simp only [found, readIntegerText_eq_ok_iff, and_iff_left short]
          constructor
          · exact fun spelled => ⟨text, utf8Text?_eq_some_iff.mp found, spelled⟩
          · rintro ⟨text', same, spelled⟩
            cases found.symm.trans (utf8Text?_eq_some_iff.mpr same)
            exact spelled
  | _ =>
      refine iff_of_false (fun same => by cases same) fun counts => ?_
      cases counts with
      | number isNumber same => cases isNumber
      | foreign foreign' _ => exact foreign foreign'

theorem readPort_eq_ok_iff {value : Value} {port : Nat} :
    readPort host value = .ok port ↔ port ≤ 65535 ∧ CountsAsInteger host value port := by
  rw [readPort, bind_eq_ok_iff]
  constructor
  · rintro ⟨number, read, inRange⟩
    split at inRange
    · cases inRange
    next notNegative =>
      split at inRange
      · cases inRange
      next notLarge =>
        cases inRange
        unfold maxPort at notLarge
        have same : (number.toNat : Int) = number := Int.toNat_of_nonneg (Int.not_lt.mp notNegative)
        rw [same]
        refine ⟨by omega, (readInteger_eq_ok_iff (by omega)).mp read⟩
  · rintro ⟨bound, counts⟩
    refine ⟨port, (readInteger_eq_ok_iff (by omega)).mpr counts, ?_⟩
    rw [if_neg (by omega), if_neg (by unfold maxPort; omega), Int.toNat_natCast]

/-! ### What settings take -/

namespace Setting

/-- The values that a setting takes, and what they come to. -/
def Takes (host : Host) : (setting : Setting) → Value → setting.Content → Prop
  | .statement, value, (text : String) => text ≠ "" ∧ CountsAs host value (.whole text)
  | .logLevel, value, level =>
      ∃ name, CountsAsWord host value name ∧ (name, level) ∈ ObservabilitySettings.levels
  | .logFormat, value, format =>
      ∃ name, CountsAsWord host value name ∧ (name, format) ∈ ObservabilitySettings.formats
  | .metricsPort, value, (port : Nat) => port ≤ 65535 ∧ CountsAsInteger host value port
  | .otelEndpoint, value, (endpoint : Option GivenText) =>
      endpoint = none ∧ value = .null ∨ ∃ text, endpoint = some text ∧ CountsAs host value text
  | .otelServiceName, value, (name : GivenText) => CountsAs host value name

def Meets (host : Host) (setting : Setting) (value : Value) : Prop :=
  ∃ content, setting.Takes host value content

def read (host : Host) : (setting : Setting) → Value → Except Complaint setting.Content
  | .statement => readNonemptyText host
  | .logLevel => readChoice host ObservabilitySettings.levels
  | .logFormat => readChoice host ObservabilitySettings.formats
  | .metricsPort => readPort host
  | .otelEndpoint => readOptionalText host
  | .otelServiceName => readGivenText host

variable {setting : Setting} {value : Value} {content : setting.Content}

theorem read_eq_ok_iff :
    setting.read host value = .ok content ↔ setting.Takes host value content := by
  cases setting with
  | statement => exact readNonemptyText_eq_ok_iff
  | logLevel => exact readChoice_eq_ok_iff (by decide)
  | logFormat => exact readChoice_eq_ok_iff (by decide)
  | metricsPort => exact readPort_eq_ok_iff
  | otelEndpoint => exact readOptionalText_eq_ok_iff
  | otelServiceName => exact readGivenText_eq_ok_iff

theorem Takes.unique {other : setting.Content} (takes : setting.Takes host value content)
    (takesToo : setting.Takes host value other) : content = other := by
  rw [← read_eq_ok_iff] at takes takesToo
  cases takes.symm.trans takesToo
  rfl

theorem read_eq_error_iff :
    (∃ complaint, setting.read host value = .error complaint) ↔ ¬setting.Meets host value := by
  cases found : setting.read host value with
  | ok content =>
      refine iff_of_false (fun ⟨_, same⟩ => by cases same) fun offends => ?_
      exact offends ⟨content, read_eq_ok_iff.mp found⟩
  | error complaint =>
      refine iff_of_true ⟨complaint, rfl⟩ ?_
      rintro ⟨content, takes⟩
      cases found.symm.trans (read_eq_ok_iff.mpr takes)

theorem read_dict (setting : Setting) (entries others : Entries) :
    setting.read host (.dict entries) = setting.read host (.dict others) := by
  cases setting with
  | _ => rfl

theorem read_laid (setting : Setting) (older : Option Value) (value : Value) :
    setting.read host (laid older value) = setting.read host value := by
  rcases laid_cases older value with same | ⟨entries, others, rfl, same⟩
  · rw [same]
  · rw [same]
    exact setting.read_dict others entries

end Setting

end Settings

end InDoubt
