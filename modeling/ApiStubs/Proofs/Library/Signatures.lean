import ApiStubs.Proofs.Library.Warnings
import ApiStubs.Proofs.Naming.Identifier
import ApiStubs.Proofs.Package.Rows

/-! # Signatures of operations

An operation has a signature exactly if what it sends and what it answers have types and the
identifiers of its arguments are different from each other and from the reserved ones. Otherwise the
first thing that stands against it is reported: arguments without a type, in their order, then the
identifiers, in the same order, and the answer last.
-/

namespace ApiStubs

variable {language : Language} {naming : Naming} {path x : String} {o : Operation}
  {s : Signature} {e : Problem} {taken l : List String}

section Free

/-- Texts that are different from each other and from those that are taken. -/
def Free (taken l : List String) : Prop :=
  l.Nodup ∧ ∀ x ∈ l, x ∉ taken

theorem free_nil : Free taken [] :=
  ⟨.nil, by simp⟩

theorem free_cons : Free taken (x :: l) ↔ x ∉ taken ∧ Free (x :: taken) l := by
  rw [Free, Free, List.nodup_cons, List.forall_mem_cons]
  simp only [List.mem_cons, not_or]
  constructor
  · rintro ⟨⟨hx, hnodup⟩, hfree, hl⟩
    exact ⟨hfree, hnodup, fun y hy => ⟨fun he => hx (he ▸ hy), hl y hy⟩⟩
  · rintro ⟨hfree, hnodup, hl⟩
    exact ⟨⟨fun hx => (hl x hx).1 rfl, hnodup⟩, hfree, fun y hy => (hl y hy).2⟩

/-- What is taken, or there already, is not free. -/
theorem not_free_append_cons {before after : List String} (h : x ∈ taken ∨ x ∈ before) :
    ¬ Free taken (before ++ x :: after) := by
  rintro ⟨hnodup, hfree⟩
  rcases h with h | h
  · exact hfree x (by simp) h
  · exact List.disjoint_of_nodup_append hnodup h (List.mem_cons_self)

end Free

/-- An argument has the name of its parameter and the type of its schema. -/
def Parameter.Gives (p : Parameter) (a : Argument) : Prop :=
  a.name = p.name ∧ p.schema.type? = some a.type

/-- What a method has as a parameter before its arguments. -/
def Language.receiver : Language → List String
  | .csharp => []
  | .python => ["self"]

/-- The parameters of a method in its text, from the names and the types of its arguments. -/
def Language.parameterList (language : Language) (names types : List String) : String :=
  match language with
  | .csharp => Text.joinWith ", " (names.zipWith (fun name type => type ++ " " ++ name) types)
  | .python =>
    Text.joinWith ", " ("self" :: names.zipWith (fun name type => name ++ ": " ++ type) types)

namespace Library

/-- The declared parameters of an operation, with the body of its request as one more. All of them
become arguments in the same way. -/
def allParameters (o : Operation) : List Parameter :=
  o.parameters ++ (bodySchema o).toList.map fun s => { name := bodyArgument, schema := s }

/-- The identifiers of the declared parameters, and that of the body if there is one. -/
def identifiers (language : Language) (o : Operation) : List String :=
  (o.parameters.map fun p => language.naming.identifier p.name) ++
    (bodySchema o).toList.map fun _ => bodyArgument

theorem argumentSites_eq (path : String) (o : Operation) : argumentSites path o =
    (allParameters o).map fun p => ⟨operationLabel o.verb path ++ ": " ++ p.name, p.schema⟩ := by
  simp [argumentSites, allParameters]

theorem type?_ne_none_of_gives {parameters : List Parameter} {arguments : List Argument}
    (h : List.Forall₂ Parameter.Gives parameters arguments) :
    ∀ p ∈ parameters, p.schema.type? ≠ none := by
  induction h with
  | nil => simp
  | cons hgives _ ih => exact List.forall_mem_cons.mpr ⟨by simp [hgives.2], ih⟩

theorem exists_gives {parameters : List Parameter}
    (h : ∀ p ∈ parameters, p.schema.type? ≠ none) :
    ∃ arguments, List.Forall₂ Parameter.Gives parameters arguments := by
  induction parameters with
  | nil => exact ⟨[], .nil⟩
  | cons p rest ih =>
    obtain ⟨hp, hrest⟩ := List.forall_mem_cons.mp h
    obtain ⟨t, ht⟩ := Option.ne_none_iff_exists'.mp hp
    obtain ⟨others, hothers⟩ := ih hrest
    exact ⟨⟨p.name, t⟩ :: others, .cons ⟨rfl, ht⟩ hothers⟩

section Arguments

variable {context : Option String} {parameters : List Parameter} {arguments : List Argument}

theorem declaredArguments_eq_ok_iff :
    declaredArguments context parameters = .ok arguments ↔
      List.Forall₂ Parameter.Gives parameters arguments := by
  induction parameters generalizing arguments with
  | nil => simp [declaredArguments, List.forall₂_nil_left_iff, eq_comm]
  | cons p rest ih =>
    simp only [declaredArguments, except_bind_eq_ok, typeOf_eq_ok_iff, ih,
      List.forall₂_cons_left_iff]
    constructor
    · rintro ⟨t, ht, others, hothers, ⟨⟩⟩
      exact ⟨_, _, ⟨rfl, ht⟩, hothers, rfl⟩
    · rintro ⟨a, others, ⟨hname, ht⟩, hothers, rfl⟩
      exact ⟨a.type, ht, others, hothers, by rw [← hname]⟩

theorem declaredArguments_eq_error_iff :
    declaredArguments context parameters = .error e ↔
      ∃ before p after, parameters = before ++ p :: after ∧
        (∀ q ∈ before, q.schema.type? ≠ none) ∧ p.schema.type? = none ∧
        e = .missingItems (contextOr (some (within context p.name))) := by
  induction parameters with
  | nil => simp [declaredArguments]
  | cons p rest ih =>
    simp only [declaredArguments, except_bind_eq_error, typeOf_eq_error_iff, typeOf_eq_ok_iff, ih,
      reduceCtorEq, and_false, exists_false, or_false]
    constructor
    · rintro (⟨hnone, rfl⟩ | ⟨t, ht, before, q, after, rfl, hbefore, hq⟩)
      · exact ⟨[], p, rest, rfl, by simp, hnone, rfl⟩
      · exact ⟨p :: before, q, after, rfl,
          List.forall_mem_cons.mpr ⟨by simp [ht], hbefore⟩, hq⟩
    · rintro ⟨before, q, after, heq, hbefore, hq⟩
      cases before with
      | nil =>
        cases heq
        exact .inl hq
      | cons p before =>
        cases heq
        obtain ⟨hp, hbefore⟩ := List.forall_mem_cons.mp hbefore
        obtain ⟨t, ht⟩ := Option.ne_none_iff_exists'.mp hp
        exact .inr ⟨t, ht, before, q, after, rfl, hbefore, hq⟩

theorem declaredArguments_append (ps qs : List Parameter) :
    declaredArguments context (ps ++ qs) = (do
      let arguments ← declaredArguments context ps
      let others ← declaredArguments context qs
      .ok (arguments ++ others)) := by
  induction ps with
  | nil =>
    rw [List.nil_append, declaredArguments]
    cases declaredArguments context qs <;> rfl
  | cons p rest ih =>
    simp only [List.cons_append, declaredArguments, ih]
    cases typeOf (some (within context p.name)) p.schema with
    | error => rfl
    | ok =>
      cases declaredArguments context rest with
      | error => rfl
      | ok => cases declaredArguments context qs <;> rfl

theorem bodyArguments_eq (context : Option String) (o : Operation) :
    bodyArguments context o = declaredArguments context
      ((bodySchema o).toList.map fun s => { name := bodyArgument, schema := s }) := by
  unfold bodyArguments
  cases bodySchema o with
  | none => rfl
  | some s => rfl

theorem buildArguments_eq (context : Option String) (o : Operation) :
    buildArguments context o = declaredArguments context (allParameters o) := by
  rw [buildArguments, bodyArguments_eq, allParameters, declaredArguments_append]

end Arguments

section Identifiers

variable {arguments : List Argument}

theorem repeatedIdentifier_eq_none_iff :
    repeatedIdentifier naming taken arguments = none ↔
      Free taken (arguments.map fun a => naming.identifier a.name) := by
  induction arguments generalizing taken with
  | nil => exact iff_of_true rfl free_nil
  | cons a rest ih =>
    rw [repeatedIdentifier, List.map_cons, free_cons, ← ih]
    by_cases h : naming.identifier a.name ∈ taken <;> simp [h]

/-- The identifier that is found is the first that is taken or there already. -/
theorem repeatedIdentifier_eq_some_iff :
    repeatedIdentifier naming taken arguments = some x ↔
      ∃ before after, (arguments.map fun a => naming.identifier a.name) = before ++ x :: after ∧
        Free taken before ∧ (x ∈ taken ∨ x ∈ before) := by
  induction arguments generalizing taken with
  | nil => simp [repeatedIdentifier]
  | cons a rest ih =>
    rw [repeatedIdentifier, List.map_cons]
    by_cases h : naming.identifier a.name ∈ taken
    -- nothing that is free can come before an identifier that is taken
    · rw [if_pos (by simpa using h)]
      constructor
      · rintro ⟨⟩
        exact ⟨[], _, rfl, free_nil, .inl h⟩
      · rintro ⟨before, after, heq, hfree, -⟩
        cases before with
        | nil => exact congrArg some (List.cons.inj heq).1
        | cons y before =>
          obtain ⟨rfl, -⟩ := List.cons.inj heq
          exact absurd h (free_cons.mp hfree).1
    -- a free identifier comes before all that follow, and is taken for them
    · rw [if_neg (by simpa using h), ih]
      constructor
      · rintro ⟨before, after, heq, hfree, hx⟩
        refine ⟨_ :: before, after, congrArg _ heq, free_cons.mpr ⟨h, hfree⟩, ?_⟩
        simpa [or_left_comm, or_assoc] using hx
      · rintro ⟨before, after, heq, hfree, hx⟩
        cases before with
        | nil =>
          obtain ⟨rfl, -⟩ := List.cons.inj heq
          exact absurd (hx.resolve_right (List.not_mem_nil)) h
        | cons y before =>
          obtain ⟨rfl, htail⟩ := List.cons.inj heq
          refine ⟨before, after, htail, (free_cons.mp hfree).2, ?_⟩
          simpa [or_left_comm, or_assoc] using hx

theorem checkArguments_eq_ok_iff {context : String} {u : Unit} :
    checkArguments naming context arguments = .ok u ↔
      Free naming.reserved (arguments.map fun a => naming.identifier a.name) := by
  rw [← repeatedIdentifier_eq_none_iff, checkArguments]
  cases repeatedIdentifier naming naming.reserved arguments <;> simp

theorem checkArguments_eq_error_iff {context : String} :
    checkArguments naming context arguments = .error e ↔
      ∃ before x after,
        (arguments.map fun a => naming.identifier a.name) = before ++ x :: after ∧
        Free naming.reserved before ∧ (x ∈ naming.reserved ∨ x ∈ before) ∧
        e = .parameterNameCollision context x := by
  have hrepeated : checkArguments naming context arguments = .error e ↔
      ∃ x, repeatedIdentifier naming naming.reserved arguments = some x ∧
        e = .parameterNameCollision context x := by
    rw [checkArguments]
    cases repeatedIdentifier naming naming.reserved arguments <;> simp [eq_comm]
  rw [hrepeated]
  constructor
  · rintro ⟨x, hx, he⟩
    obtain ⟨before, after, heq, hfree, htaken⟩ := repeatedIdentifier_eq_some_iff.mp hx
    exact ⟨before, x, after, heq, hfree, htaken, he⟩
  · rintro ⟨before, x, after, heq, hfree, htaken, he⟩
    exact ⟨x, repeatedIdentifier_eq_some_iff.mpr ⟨before, after, heq, hfree, htaken⟩, he⟩

theorem identifier_bodyArgument (language : Language) :
    language.naming.identifier bodyArgument = bodyArgument := by
  cases language with
  | csharp => decide +kernel
  | python =>
    refine String.toList_inj.mp ?_
    rw [Language.naming, Naming.snake, Naming.Snake.toList_clean]
    decide +kernel

theorem identifiers_eq (language : Language) (o : Operation) :
    identifiers language o = (allParameters o).map fun p => language.naming.identifier p.name := by
  simp [identifiers, allParameters, identifier_bodyArgument, Function.comp_def]

end Identifiers

section Results

theorem buildResult_eq_ok_iff {context : Option String} {result : Completion} :
    buildResult context o = .ok result ↔
      (∀ s ∈ resultSchema o, s.type? ≠ none) ∧
        result.payload = (resultSchema o).bind Schema.type? := by
  obtain ⟨payload⟩ := result
  unfold buildResult
  cases resultSchema o with
  | none => simp [eq_comm]
  | some s =>
    simp only [except_bind_eq_ok, typeOf_eq_ok_iff]
    cases h : s.type? <;> simp [h, eq_comm]

theorem buildResult_eq_error_iff {context : Option String} :
    buildResult context o = .error e ↔
      ∃ s ∈ resultSchema o, s.type? = none ∧
        e = .missingItems (contextOr (some (within context "response"))) := by
  unfold buildResult
  cases resultSchema o with
  | none => simp
  | some s => simp [except_bind_eq_error, typeOf_eq_error_iff]

theorem operationLabel_ne_empty (verb : Verb) (path : String) : operationLabel verb path ≠ "" := by
  simp [operationLabel, ← String.toList_eq_nil_iff]

theorem within_operationLabel (verb : Verb) (path name : String) :
    within (some (operationLabel verb path)) name = operationLabel verb path ++ ": " ++ name := by
  unfold within
  split
  · next h => exact absurd (Option.some.inj h) (operationLabel_ne_empty verb path)
  · next h => cases h
  · next h => cases h; rfl

theorem contextOr_within (verb : Verb) (path name : String) :
    contextOr (some (within (some (operationLabel verb path)) name)) =
      operationLabel verb path ++ ": " ++ name := by
  rw [within_operationLabel]
  unfold contextOr
  split
  · next h => simp [← String.toList_eq_nil_iff] at h
  · next h => cases h
  · next h => exact (Option.some.inj h).symm

end Results

/-- Everything that the signature of an operation needs. -/
structure Buildable (language : Language) (o : Operation) : Prop where
  arguments : ∀ p ∈ allParameters o, p.schema.type? ≠ none
  free : Free language.naming.reserved (identifiers language o)
  result : ∀ s ∈ resultSchema o, s.type? ≠ none

/-- What is reported instead of a signature: the first thing that it needs and has not. -/
inductive Refuses (language : Language) (path : String) (o : Operation) : Problem → Prop
  | argument {before after : List Parameter} {p : Parameter} :
      allParameters o = before ++ p :: after → (∀ q ∈ before, q.schema.type? ≠ none) →
      p.schema.type? = none →
      Refuses language path o (.missingItems (operationLabel o.verb path ++ ": " ++ p.name))
  | identifier {before after : List String} {x : String} :
      (∀ p ∈ allParameters o, p.schema.type? ≠ none) →
      identifiers language o = before ++ x :: after → Free language.naming.reserved before →
      x ∈ language.naming.reserved ∨ x ∈ before →
      Refuses language path o (.parameterNameCollision (operationLabel o.verb path) x)
  | result {s : Schema} :
      (∀ p ∈ allParameters o, p.schema.type? ≠ none) →
      Free language.naming.reserved (identifiers language o) → s ∈ resultSchema o →
      s.type? = none →
      Refuses language path o (.missingItems (operationLabel o.verb path ++ ": response"))

/-- The signature of an operation, and how the parameters of the method are written. -/
structure Signs (language : Language) (path : String) (o : Operation) (s : Signature) : Prop where
  name : s.name = MethodName.synthesize o.verb path
  route : s.route = path
  verb : s.verb = o.verb
  description : s.description = o.summary
  arguments : List.Forall₂ Parameter.Gives (allParameters o) s.arguments
  result : s.result.payload = (resultSchema o).bind Schema.type?
  distinct : (language.receiver ++ identifiers language o).Nodup
  written : ∃ before after, language.method s =
    before ++ "(" ++ language.parameterList (identifiers language o)
      (s.arguments.map fun a => language.type false a.type) ++ ")" ++ after

theorem Refuses.not_buildable (h : Refuses language path o e) : ¬ Buildable language o := by
  intro hb
  cases h with
  | argument heq _ hnone => exact hb.arguments _ (by simp [heq]) hnone
  | identifier _ heq _ hx => exact not_free_append_cons hx (heq ▸ hb.free)
  | result _ _ hs hnone => exact hb.result _ hs hnone

theorem outcome_buildSignature (naming : Naming) (path : String) (o : Operation) :
    (buildSignature naming path o).outcome = (do
      let arguments ← declaredArguments (some (operationLabel o.verb path)) (allParameters o)
      checkArguments naming (operationLabel o.verb path) arguments
      let result ← buildResult (some (operationLabel o.verb path)) o
      .ok { name := MethodName.synthesize o.verb path, route := path, verb := o.verb, arguments,
            result, description := o.summary }) := by
  simp only [← buildArguments_eq, buildSignature, Traced.outcome_bind, outcome_noteArguments,
    Traced.outcome_lift, Traced.outcome_pure]
  rfl

section Writing

variable {arguments : List Argument}

/-- The identifiers of the arguments are those of the parameters. -/
theorem map_identifier_eq (language : Language)
    (h : List.Forall₂ Parameter.Gives (allParameters o) arguments) :
    (arguments.map fun a => language.naming.identifier a.name) = identifiers language o := by
  rw [identifiers_eq]
  generalize allParameters o = parameters at h
  induction h with
  | nil => rfl
  | cons hgives _ ih => rw [List.map_cons, List.map_cons, ih, hgives.1]

theorem nodup_receiver_append (h : Free language.naming.reserved l) :
    (language.receiver ++ l).Nodup := by
  cases language with
  | csharp => exact h.1
  | python => exact List.nodup_cons.mpr ⟨fun hself => h.2 _ hself (List.mem_singleton_self _), h.1⟩

theorem parameterList_csharp (arguments : List Argument) :
    Language.csharp.parameterList
        (arguments.map fun a => Language.csharp.naming.identifier a.name)
        (arguments.map fun a => Language.csharp.type false a.type) =
      Text.joinWith ", " (arguments.map CSharp.argument) := by
  rw [Language.parameterList, List.zipWith_map, List.zipWith_self]
  rfl

theorem parameterList_python (arguments : List Argument) :
    Language.python.parameterList
        (arguments.map fun a => Language.python.naming.identifier a.name)
        (arguments.map fun a => Language.python.type false a.type) =
      Text.joinWith ", " ("self" :: arguments.map Python.argument) := by
  rw [Language.parameterList, List.zipWith_map, List.zipWith_self]
  rfl

/-- The parameters stand in brackets in the text of a method. -/
theorem exists_method_eq (language : Language) (s : Signature) :
    ∃ before after, language.method s =
      before ++ "(" ++ language.parameterList
        (s.arguments.map fun a => language.naming.identifier a.name)
        (s.arguments.map fun a => language.type false a.type) ++ ")" ++ after := by
  cases language with
  | csharp =>
    refine ⟨"public async " ++ CSharp.result s.result ++ " " ++ CSharp.identifier s.name,
      "\n\x7b\n    throw new NotImplementedException();\n\x7d", ?_⟩
    rw [parameterList_csharp, Language.method, CSharp.method]
    simp only [CSharp.methodTemplate, Template.fill, List.map_cons, List.map_nil, Text.concat,
      List.lookup_cons]
    simp [String.append_assoc]
  | python =>
    have hsplit : ") -> " = ")" ++ " -> " := rfl
    refine ⟨"async def " ++ Python.identifier s.name,
      " -> " ++ Python.result s.result ++ (":" ++ "\n" ++ "    raise NotImplementedError(") ++
        Text.literal s.label ++ ")", ?_⟩
    rw [parameterList_python, Language.method, Python.method, Python.fill_methodTemplate, hsplit]
    simp only [String.append_assoc]

end Writing

theorem buildSignature_eq_ok_iff : (buildSignature language.naming path o).outcome = .ok s ↔
    Buildable language o ∧ Signs language path o s := by
  simp only [outcome_buildSignature, except_bind_eq_ok, declaredArguments_eq_ok_iff,
    checkArguments_eq_ok_iff, buildResult_eq_ok_iff]
  constructor
  · rintro ⟨arguments, harguments, _, hfree, result, ⟨hresult, hpayload⟩, ⟨⟩⟩
    have hidentifiers := map_identifier_eq language harguments
    rw [hidentifiers] at hfree
    refine ⟨⟨type?_ne_none_of_gives harguments, hfree, hresult⟩,
      rfl, rfl, rfl, rfl, harguments, hpayload, nodup_receiver_append hfree, ?_⟩
    rw [← hidentifiers]
    exact exists_method_eq language _
  · rintro ⟨hb, hs⟩
    refine ⟨s.arguments, hs.arguments, (), ?_, s.result, ⟨hb.result, hs.result⟩, ?_⟩
    · rw [map_identifier_eq language hs.arguments]
      exact hb.free
    · rw [← hs.name, ← hs.route, ← hs.verb, ← hs.description]

theorem buildSignature_eq_error_iff : (buildSignature language.naming path o).outcome = .error e ↔
    Refuses language path o e := by
  simp only [outcome_buildSignature, except_bind_eq_error, declaredArguments_eq_ok_iff,
    declaredArguments_eq_error_iff, checkArguments_eq_ok_iff, checkArguments_eq_error_iff,
    buildResult_eq_error_iff, contextOr_within, reduceCtorEq, and_false, exists_false, or_false]
  have hresponse : operationLabel o.verb path ++ ": " ++ "response" =
      operationLabel o.verb path ++ ": response" := String.append_assoc
  rw [hresponse]
  constructor
  · rintro (⟨before, p, after, heq, hbefore, hnone, rfl⟩ | ⟨arguments, harguments, hrest⟩)
    · exact .argument heq hbefore hnone
    · have htyped := type?_ne_none_of_gives harguments
      rw [map_identifier_eq language harguments] at hrest
      rcases hrest with ⟨before, x, after, heq, hfree, hx, rfl⟩ | ⟨_, hfree, s, hs, hnone, rfl⟩
      · exact .identifier htyped heq hfree hx
      · exact .result htyped hfree hs hnone
  · intro h
    cases h with
    | argument heq hbefore hnone => exact .inl ⟨_, _, _, heq, hbefore, hnone, rfl⟩
    | identifier htyped heq hfree hx =>
      obtain ⟨arguments, harguments⟩ := exists_gives htyped
      rw [← map_identifier_eq language harguments] at heq
      exact .inr ⟨arguments, harguments, .inl ⟨_, _, _, heq, hfree, hx, rfl⟩⟩
    | result htyped hfree hs hnone =>
      obtain ⟨arguments, harguments⟩ := exists_gives htyped
      rw [← map_identifier_eq language harguments] at hfree
      exact .inr ⟨arguments, harguments, .inr ⟨(), hfree, _, hs, hnone, rfl⟩⟩

/-- An operation has a signature exactly if its arguments and its answer have types and the
identifiers of its arguments are free. -/
theorem buildSignature_iff (language : Language) (path : String) (o : Operation) :
    ((∃ s, (buildSignature language.naming path o).outcome = .ok s) ↔ Buildable language o) ∧
      (∀ s, (buildSignature language.naming path o).outcome = .ok s ↔
        Buildable language o ∧ Signs language path o s) ∧
      ∀ e, (buildSignature language.naming path o).outcome = .error e ↔
        Refuses language path o e := by
  refine ⟨⟨?_, ?_⟩, fun _ => buildSignature_eq_ok_iff, fun _ => buildSignature_eq_error_iff⟩
  · rintro ⟨s, hs⟩
    exact (buildSignature_eq_ok_iff.mp hs).1
  · intro hb
    cases h : (buildSignature language.naming path o).outcome with
    | ok s => exact ⟨s, rfl⟩
    | error e => exact absurd hb (buildSignature_eq_error_iff.mp h).not_buildable

end Library

end ApiStubs
