import Mailroom.Proofs.SoundCommands

/-!
# Arguments and schemas

The arguments of a call are checked against the schema that its tool publishes. What is accepted
and what is refused is told here by the schema alone, as callers read it.
-/

namespace Mailroom

namespace Json

/-- A value of a type, by the type's name in a schema. Truth values and numbers with a fraction are
no whole numbers, and a list has only strings in it. -/
inductive HasType : Json → String → Prop where
  | string (s : String) : HasType (.string s) "string"
  | integer (n : Int) : HasType (.integer n) "integer"
  | boolean (b : Bool) : HasType (.bool b) "boolean"
  | array (ss : List String) : HasType (.array (ss.map .string)) "array"

lemma field?_object {fields : List (String × Json)} (h : (fields.map Prod.fst).Nodup)
    {name : String} {v : Json} : (object fields).field? name = some v ↔ (name, v) ∈ fields := by
  have hreverse : (fields.reverse.map Prod.fst).Nodup := by
    rwa [List.map_reverse, List.nodup_reverse]
  unfold field?
  rw [Option.map_eq_some_iff]
  simp only [find?_key_eq_some hreverse, List.mem_reverse]
  constructor
  · rintro ⟨⟨k, v'⟩, ⟨hmem, rfl⟩, rfl⟩
    exact hmem
  · exact fun hmem => ⟨_, ⟨hmem, rfl⟩, rfl⟩

lemma all_string_iff {items : List Json} :
    items.all (·.string?.isSome) ↔ ∃ ss : List String, items = ss.map .string := by
  induction items with
  | nil => exact ⟨fun _ => ⟨[], rfl⟩, fun _ => rfl⟩
  | cons j items ih =>
    rw [List.all_cons, Bool.and_eq_true, ih]
    constructor
    · rintro ⟨hj, ss, rfl⟩
      cases j with
      | string s => exact ⟨s :: ss, rfl⟩
      | _ => cases hj
    · rintro ⟨ss, hss⟩
      cases ss with
      | nil => cases hss
      | cons s ss =>
        cases hss
        exact ⟨rfl, ss, rfl⟩

end Json

namespace Tool

/-- What the schema of a tool says of an argument. -/
def property? (t : Tool) (name : String) : Option Json :=
  (t.schema.field? "properties").bind (·.field? name)

/-- The schema of a tool has an argument of this type. -/
def Declares (t : Tool) (name type : String) : Prop :=
  ∃ j, t.property? name = some j ∧ j.field? "type" = some (.string type)

/-- The arguments that the schema of a tool requires. -/
def requiredNames (t : Tool) : List String :=
  ((t.schema.field? "required").bind Json.array?).elim [] (·.filterMap Json.string?)

lemma ofName?_eq_some {name : String} {t : Tool} :
    ofName? name = some t ↔ t ∈ catalogue ∧ t.name = name :=
  find?_key_eq_some (by decide)

lemma ofName?_eq_none {name : String} : ofName? name = none ↔ ∀ t ∈ catalogue, t.name ≠ name := by
  simp [ofName?, List.find?_eq_none]

lemma nodup_parameters : ∀ t ∈ catalogue, (t.parameters.map Parameter.name).Nodup := by
  decide

lemma property?_eq {t : Tool} (h : t ∈ catalogue) (name : String) :
    t.property? name = (t.parameter? name).map Parameter.schema := by
  have hproperties : t.schema.field? "properties" =
      some (.object (t.parameters.map fun p => (p.name, p.schema))) := by
    unfold schema
    cases t.required.isEmpty <;> rfl
  have hnames := nodup_parameters t h
  have hkeys : ((t.parameters.map fun p => (p.name, p.schema)).map Prod.fst).Nodup := by
    rwa [List.map_map]
  ext j
  rw [property?, hproperties, Option.bind_some, Json.field?_object hkeys, parameter?,
    Option.map_eq_some_iff]
  simp only [find?_key_eq_some hnames, List.mem_map, Prod.mk.injEq]
  simp only [and_assoc]

lemma requiredNames_eq (t : Tool) : t.requiredNames = t.required := by
  unfold requiredNames schema
  cases hrequired : t.required with
  | nil => rfl
  | cons name names =>
    have hstrings : ∀ ss : List String, (ss.map Json.string).filterMap Json.string? = ss := by
      intro ss
      rw [List.filterMap_map]
      exact List.filterMap_some
    exact hstrings (name :: names)

end Tool

lemma Parameter.field?_type (p : Parameter) :
    p.schema.field? "type" = some (.string p.kind.name) := by
  obtain ⟨name, kind, description, bounds, default⟩ := p
  rcases bounds with _ | ⟨low, high⟩ <;> cases kind <;> cases description <;> cases default <;> rfl

lemma ArgumentKind.name_inj {k k' : ArgumentKind} (h : k.name = k'.name) : k = k' := by
  cases k <;> cases k' <;> first | rfl | exact absurd h (by decide)

lemma Tool.declares_iff {t : Tool} (h : t ∈ catalogue) {name type : String} :
    t.Declares name type ↔ ∃ p, t.parameter? name = some p ∧ p.kind.name = type := by
  unfold Declares
  rw [property?_eq h]
  cases t.parameter? name with
  | none => simp
  | some p => simp [p.field?_type]

namespace Arguments

variable {tool : String} {as : Arguments} {t : Tool}

lemma hasType_iff {v : Json} {kind : ArgumentKind} :
    v.HasType kind.name ↔ isOfKind kind v ∧ itemsAreStrings v := by
  constructor
  · intro h
    generalize htype : kind.name = type at h
    cases h with
    | string s =>
      obtain rfl : kind = .string := ArgumentKind.name_inj htype
      exact ⟨rfl, rfl⟩
    | integer n =>
      obtain rfl : kind = .integer := ArgumentKind.name_inj htype
      exact ⟨rfl, rfl⟩
    | boolean b =>
      obtain rfl : kind = .boolean := ArgumentKind.name_inj htype
      exact ⟨rfl, rfl⟩
    | array ss =>
      obtain rfl : kind = .strings := ArgumentKind.name_inj htype
      exact ⟨rfl, Json.all_string_iff.2 ⟨ss, rfl⟩⟩
  · rintro ⟨hkind, hitems⟩
    cases v with
    | string s =>
      cases kind with
      | string => exact .string s
      | _ => cases hkind
    | integer n =>
      cases kind with
      | integer => exact .integer n
      | _ => cases hkind
    | bool b =>
      cases kind with
      | boolean => exact .boolean b
      | _ => cases hkind
    | array items =>
      cases kind with
      | strings =>
        obtain ⟨ss, rfl⟩ := Json.all_string_iff.1 hitems
        exact .array ss
      | _ => cases hkind
    | _ => cases kind <;> cases hkind

/-- The names of the arguments that are not null. -/
def givenNames (as : Arguments) : List String :=
  (as.filter fun a => !a.2.isNull).map Prod.fst

/-- A value of the type that the tool's schema has for it. -/
def Typed (t : Tool) (a : String × Json) : Prop :=
  ∃ type, t.Declares a.1 type ∧ a.2.HasType type

/-- The given arguments that the tool's schema does not have. -/
def strangers (t : Tool) (as : Arguments) : List String :=
  as.givenNames.filter fun name => (t.property? name).isNone

/-- The arguments that the tool's schema requires and that are not given. -/
def lacking (t : Tool) (as : Arguments) : List String :=
  t.requiredNames.filter fun name => name ∉ as.givenNames

/-- Arguments of which all that are given stand in the schema of a tool and have their type there,
and that lack none. -/
structure Conforms (t : Tool) (as : Arguments) : Prop where
  known : ∀ name ∈ as.givenNames, (t.property? name).isSome
  required : ∀ name ∈ t.requiredNames, name ∈ as.givenNames
  typed : ∀ a ∈ as, a.2.isNull = false → Typed t a

/-- What is said of a value that is not of its type: of a list where one is due, that it has
something else than strings in it. -/
def mistyped (name type : String) (v : Json) : Error :=
  if type = "array" ∧ v.array?.isSome then .argumentItems name else .argumentType name type

/-- How the arguments of a call fail the schema of its tool, by the first condition that fails. -/
inductive Failing (tool : String) (as : Arguments) : Error → Prop where
  | tool (h : ∀ t ∈ Tool.catalogue, t.name ≠ tool) : Failing tool as (.unknownTool tool)
  | names {t : Tool} (ht : t ∈ Tool.catalogue) (hname : t.name = tool) {names : List String}
    (hsome : names ≠ []) (hsorted : names.Pairwise (· ≤ ·)) (hperm : names.Perm (strangers t as)) :
    Failing tool as (.unknownArguments names)
  | required {t : Tool} (ht : t ∈ Tool.catalogue) (hname : t.name = tool)
    (hnames : strangers t as = []) (hsome : lacking t as ≠ []) :
    Failing tool as (.missingArguments (lacking t as))
  | value {t : Tool} (ht : t ∈ Tool.catalogue) (hname : t.name = tool)
    (hnames : strangers t as = []) (hrequired : lacking t as = [])
    {before after : Arguments} {name type : String} {v : Json}
    (hsplit : (as.filter fun a => !a.2.isNull) = before ++ (name, v) :: after)
    (hbefore : ∀ a ∈ before, Typed t a) (htype : t.Declares name type) (hv : ¬ v.HasType type) :
    Failing tool as (mistyped name type v)

lemma strangers_eq (ht : t ∈ Tool.catalogue) :
    strangers t as = (as.present.map (·.1)).filter fun name => (t.parameter? name).isNone := by
  unfold strangers
  simp only [Tool.property?_eq ht, Option.isNone_map]
  rfl

lemma has_present_eq {name : String} : as.present.has name = decide (name ∈ as.givenNames) := by
  rw [Bool.eq_iff_iff, decide_eq_true_iff]
  simp [has, givenNames, present]

lemma lacking_eq : lacking t as = t.required.filter fun name => !as.present.has name := by
  simp [lacking, Tool.requiredNames_eq, has_present_eq]

lemma checkValue_typed (ht : t ∈ Tool.catalogue) {a : String × Json} {p : Parameter}
    (hp : t.parameter? a.1 = some p) : checkValue t a = .ok () ↔ Typed t a := by
  rw [checkValue_eq_ok hp, ← hasType_iff]
  simp [Typed, Tool.declares_iff ht, hp]

lemma mistyped_of_not {v : Json} {kind : ArgumentKind} (h : ¬ v.HasType kind.name) (name : String) :
    mistyped name kind.name v =
      if isOfKind kind v then .argumentItems name else .argumentType name kind.name := by
  rw [hasType_iff] at h
  unfold mistyped
  cases kind <;> cases v <;> first | rfl | exact absurd ⟨rfl, rfl⟩ h

lemma checkValue_eq_error (ht : t ∈ Tool.catalogue) {a : String × Json} {p : Parameter} {e : Error}
    (hp : t.parameter? a.1 = some p) : checkValue t a = .error e ↔
      ∃ type, t.Declares a.1 type ∧ ¬ a.2.HasType type ∧ e = mistyped a.1 type a.2 := by
  have hdeclares : (∃ type, t.Declares a.1 type ∧ ¬ a.2.HasType type ∧ e = mistyped a.1 type a.2) ↔
      ¬ a.2.HasType p.kind.name ∧ e = mistyped a.1 p.kind.name a.2 := by
    simp [Tool.declares_iff ht, hp]
  rw [hdeclares]
  by_cases h : a.2.HasType p.kind.name
  · rw [(checkValue_eq_ok hp).2 (hasType_iff.1 h)]
    exact iff_of_false nofun fun h' => h'.1 h
  · have hvalue : checkValue t a = .error (mistyped a.1 p.kind.name a.2) := by
      rw [mistyped_of_not h]
      rw [hasType_iff] at h
      unfold checkValue
      rw [hp]
      dsimp only
      cases hkind : isOfKind p.kind a.2 with
      | false => rfl
      | true =>
        have hitems : itemsAreStrings a.2 = false := by
          rw [hkind] at h
          simpa using h
        rw [hitems]
        rfl
    rw [hvalue, and_iff_right h, Except.error.injEq, eq_comm]

/-- If the schema has all given arguments, each of them is one of the tool's parameters. -/
lemma exists_parameter (ht : t ∈ Tool.catalogue) (h : strangers t as = []) :
    ∀ a ∈ as.present, ∃ p, t.parameter? a.1 = some p := by
  rw [strangers_eq ht] at h
  simpa [List.filter_eq_nil_iff, Option.ne_none_iff_exists'] using h

/-- Among given arguments that the schema has, the first whose value is not of its type decides. -/
lemma forM_checkValue_eq_error (ht : t ∈ Tool.catalogue) (h : strangers t as = []) {e : Error} :
    as.present.forM (checkValue t) = .error e ↔
      ∃ before name v after type, as.present = before ++ (name, v) :: after ∧
        (∀ a ∈ before, Typed t a) ∧ t.Declares name type ∧ ¬ v.HasType type ∧
          e = mistyped name type v := by
  have hknown := exists_parameter ht h
  rw [forM_eq_error]
  constructor
  · rintro ⟨before, ⟨name, v⟩, after, hsplit, hbefore, ha⟩
    rw [hsplit, List.forall_mem_append, List.forall_mem_cons] at hknown
    obtain ⟨hparameters, ⟨p, hp⟩, -⟩ := hknown
    obtain ⟨type, htype, hv, he⟩ := (checkValue_eq_error ht hp).1 ha
    refine ⟨before, name, v, after, type, hsplit, fun b hb => ?_, htype, hv, he⟩
    obtain ⟨q, hq⟩ := hparameters b hb
    exact (checkValue_typed ht hq).1 (hbefore b hb)
  · rintro ⟨before, name, v, after, type, hsplit, hbefore, htype, hv, he⟩
    rw [hsplit, List.forall_mem_append, List.forall_mem_cons] at hknown
    obtain ⟨hparameters, ⟨p, hp⟩, -⟩ := hknown
    refine ⟨before, (name, v), after, hsplit, fun b hb => ?_, ?_⟩
    · obtain ⟨q, hq⟩ := hparameters b hb
      exact (checkValue_typed ht hq).2 (hbefore b hb)
    · exact (checkValue_eq_error ht hp).2 ⟨type, htype, hv, he⟩

lemma check_eq_error {e : Error} : as.check tool = .error e ↔ Failing tool as e := by
  unfold check
  cases hfind : Tool.ofName? tool with
  | none =>
    have hnone := Tool.ofName?_eq_none.1 hfind
    constructor
    · intro h
      cases h
      exact .tool hnone
    · intro h
      cases h with
      | tool _ => rfl
      | names ht hname _ _ _ => exact absurd hname (hnone _ ht)
      | required ht hname _ _ => exact absurd hname (hnone _ ht)
      | value ht hname _ _ _ _ _ _ => exact absurd hname (hnone _ ht)
  | some t =>
    obtain ⟨ht, hname⟩ := Tool.ofName?_eq_some.1 hfind
    have honly : ∀ t' ∈ Tool.catalogue, t'.name = tool → t' = t := by
      intro t' ht' hname'
      exact Option.some.inj ((Tool.ofName?_eq_some.2 ⟨ht', hname'⟩).symm.trans hfind)
    dsimp only
    have hsome : ∀ names : List String, (!names.isEmpty) = true ↔ names ≠ [] := by simp
    -- Two conditions on names, and only then the values.
    rw [passed_eq_error, passed_eq_error, bind_eq_error, ← strangers_eq ht, ← lacking_eq]
    simp only [hsome, not_not]
    constructor
    · rintro (⟨hnames, ⟨⟩⟩ | ⟨hnames, ⟨hrequired, ⟨⟩⟩ | ⟨hrequired, hvalue | ⟨_, -, ⟨⟩⟩⟩⟩)
      · have hperm := List.mergeSort_perm (strangers t as) fun a b => decide (a ≤ b)
        refine .names ht hname (fun hnil => hnames ?_) (pairwise_sorted _) hperm
        rw [hnil] at hperm
        exact hperm.symm.eq_nil
      · exact .required ht hname hnames hrequired
      · obtain ⟨before, name, v, after, type, hsplit, hbefore, htype, hv, rfl⟩ :=
          (forM_checkValue_eq_error ht hnames).1 hvalue
        exact .value ht hname hnames hrequired hsplit hbefore htype hv
    · intro h
      cases h with
      | tool hnone => exact absurd hname (hnone t ht)
      | names ht' hname' hne hsorted hperm =>
        obtain rfl := honly _ ht' hname'
        refine .inl ⟨fun hnil => hne ?_, ?_⟩
        · rw [hnil] at hperm
          exact hperm.eq_nil
        · rw [← eq_sorted hsorted hperm]
      | required ht' hname' hnames hne =>
        obtain rfl := honly _ ht' hname'
        exact .inr ⟨hnames, .inl ⟨hne, rfl⟩⟩
      | value ht' hname' hnames hrequired hsplit hbefore htype hv =>
        obtain rfl := honly _ ht' hname'
        refine .inr ⟨hnames, .inr ⟨hrequired, .inl ?_⟩⟩
        exact (forM_checkValue_eq_error ht hnames).2
          ⟨_, _, _, _, _, hsplit, hbefore, htype, hv, rfl⟩

lemma conforms_iff (ht : t ∈ Tool.catalogue) : Conforms t as ↔ as.Fits t := by
  have hgiven : ∀ name, name ∈ as.givenNames ↔ ∃ a ∈ as, a.1 = name ∧ a.2.isNull = false := by
    intro name
    rw [← has_iff, has_present_eq, decide_eq_true_iff]
  constructor
  · intro h
    refine ⟨fun a ha hnull => ?_, fun name hname => ?_⟩
    · have hknown := h.known a.1 ((hgiven _).2 ⟨a, ha, rfl, hnull⟩)
      rw [Tool.property?_eq ht, Option.isSome_map] at hknown
      obtain ⟨p, hp⟩ := Option.isSome_iff_exists.1 hknown
      exact ⟨p, hp, (checkValue_eq_ok hp).1 ((checkValue_typed ht hp).2 (h.typed a ha hnull))⟩
    · exact (hgiven name).1 (h.required name (by rwa [Tool.requiredNames_eq]))
  · intro h
    refine ⟨fun name hname => ?_, fun name hname => ?_, fun a ha hnull => ?_⟩
    · obtain ⟨a, ha, rfl, hnull⟩ := (hgiven name).1 hname
      obtain ⟨p, hp, -⟩ := h.known a ha hnull
      rw [Tool.property?_eq ht, hp]
      rfl
    · rw [Tool.requiredNames_eq] at hname
      exact (hgiven name).2 (h.required name hname)
    · obtain ⟨p, hp, hvalue⟩ := h.known a ha hnull
      exact (checkValue_typed ht hp).1 ((checkValue_eq_ok hp).2 hvalue)

/-- Arguments are accepted exactly if their tool exists and they conform to its schema, and then
those that are not null are what the tool is run with. Otherwise the first condition that fails is
told. Null arguments change nothing, whether the schema has them or not. -/
theorem check_heeds_schema (tool : String) (as : Arguments) :
    (∀ as', as.check tool = .ok as' ↔
      (∃ t ∈ Tool.catalogue, t.name = tool ∧ Conforms t as) ∧
        as' = as.filter fun a => !a.2.isNull) ∧
    (∀ e, as.check tool = .error e ↔ Failing tool as e) ∧
    (∀ e, Failing tool as e → e.code = .invalidInput) ∧
    ∀ as' : Arguments, (as'.filter fun a => !a.2.isNull) = (as.filter fun a => !a.2.isNull) →
      as'.check tool = as.check tool := by
  refine ⟨fun as' => ?_, fun e => check_eq_error, fun e h => ?_, fun as' h => ?_⟩
  · rw [check_eq_ok]
    constructor
    · rintro ⟨t, hfind, hfits, rfl⟩
      obtain ⟨ht, hname⟩ := Tool.ofName?_eq_some.1 hfind
      exact ⟨⟨t, ht, hname, (conforms_iff ht).2 hfits⟩, rfl⟩
    · rintro ⟨⟨t, ht, hname, h⟩, rfl⟩
      exact ⟨t, Tool.ofName?_eq_some.2 ⟨ht, hname⟩, (conforms_iff ht).1 h, rfl⟩
  · cases h with
    | value =>
      unfold mistyped
      split <;> rfl
    | _ => rfl
  · have hpresent : as'.present = as.present := h
    unfold check
    rw [hpresent]

/-- A number with a fraction, after an argument that is null and unknown. -/
example : Arguments.check "imap_search_messages" [("verbose", .null),
    ("mailbox", .string "INBOX"), ("limit", .decimal "10.0")] =
      .error (.argumentType "limit" "integer") := rfl

end Arguments

end Mailroom
