import ApiStubs.Library.Models
import ApiStubs.MethodName

/-!
# Methods of a document

The signature of an operation: its declared parameters, the body of its request as one more argument
and the result of a successful call. Methods that share a name are all left out, and so are those
that refer to a missing model.
-/

namespace ApiStubs

namespace Library

def jsonMediaType : String := "application/json"

def successStatus : String := "200"

def bodyArgument : String := "requestBody"

/-- The context of a part of an operation. -/
def within (context : Option String) (name : String) : String :=
  match context with
  | some "" | none => name
  | some c => c ++ ": " ++ name

/-- The schema of the body of a request, if it can be sent as JSON. -/
def bodySchema (o : Operation) : Option Schema :=
  o.requestBody.bind (·.get? jsonMediaType)

/-- The arguments for declared parameters. -/
def declaredArguments (context : Option String) : List Parameter → Except Problem (List Argument)
  | [] => .ok []
  | p :: rest => do
    let type ← typeOf (some (within context p.name)) p.schema
    let arguments ← declaredArguments context rest
    .ok (⟨p.name, type⟩ :: arguments)

/-- The argument for the body of the request. -/
def bodyArguments (context : Option String) (o : Operation) : Except Problem (List Argument) :=
  match bodySchema o with
  | none => .ok []
  | some s => do
    let type ← typeOf (some (within context bodyArgument)) s
    .ok [⟨bodyArgument, type⟩]

/-- The arguments of an operation in order, the body last. -/
def buildArguments (context : Option String) (o : Operation) : Except Problem (List Argument) := do
  let declared ← declaredArguments context o.parameters
  let body ← bodyArguments context o
  .ok (declared ++ body)

/-- The schema of a successful answer, if it is JSON. -/
def resultSchema (o : Operation) : Option Schema :=
  (o.responses.get? successStatus).bind (·.get? jsonMediaType)

/-- What a call of an operation ends with. Only the plain success counts. -/
def buildResult (context : Option String) (o : Operation) : Except Problem Completion :=
  match resultSchema o with
  | none => .ok {}
  | some s => do
    let type ← typeOf (some (within context "response")) s
    .ok ⟨some type⟩

/-- The first identifier of some arguments that is taken by an earlier one. -/
def repeatedIdentifier (naming : Naming) : List String → List Argument → Option String
  | _, [] => none
  | taken, a :: rest =>
    let identifier := naming.identifier a.name
    if taken.contains identifier then some identifier
    else repeatedIdentifier naming (identifier :: taken) rest

/-- Refuses arguments when an identifier is reserved or taken by an earlier one. -/
def checkArguments (naming : Naming) (context : String) (arguments : List Argument) :
    Except Problem Unit :=
  match repeatedIdentifier naming naming.reserved arguments with
  | some identifier => .error (.parameterNameCollision context identifier)
  | none => .ok ()

/-- Says of every parameter and of the body whether its shape is without a type of its own. -/
def noteArguments (context : String) (o : Operation) : Traced Problem Unit := do
  for p in o.parameters do
    noteUnmodeled (context ++ ": " ++ p.name) p.schema
  match bodySchema o with
  | some s => noteUnmodeled (context ++ ": " ++ bodyArgument) s
  | none => pure ()

theorem outcome_noteArguments (context : String) (o : Operation) :
    (noteArguments context o).outcome = .ok () := by
  have hloop : ∀ parameters : List Parameter,
      (forIn parameters PUnit.unit fun p _ => do
        noteUnmodeled (context ++ ": " ++ p.name) p.schema
        pure (.yield PUnit.unit) : Traced Problem PUnit).outcome = .ok () := by
    intro parameters
    induction parameters with
    | nil => rfl
    | cons p rest ih =>
      rw [List.forIn_cons, Traced.outcome_bind_eq_ok]
      exact ⟨_, Traced.outcome_bind_eq_ok.mpr ⟨(), outcome_noteUnmodeled _ _, rfl⟩, ih⟩
  unfold noteArguments
  rw [Traced.outcome_bind_eq_ok]
  refine ⟨(), hloop o.parameters, ?_⟩
  split
  · exact outcome_noteUnmodeled _ _
  · rfl

/-- The signature of the method for an operation. -/
def buildSignature (naming : Naming) (path : String) (o : Operation) :
    Traced Problem Signature := do
  let context := operationLabel o.verb path
  noteArguments context o
  let arguments ← buildArguments (some context) o
  checkArguments naming context arguments
  let result ← buildResult (some context) o
  pure { name := MethodName.synthesize o.verb path, route := path, verb := o.verb, arguments,
         result, description := o.summary }

theorem buildSignature_names {naming : Naming} {path : String} {o : Operation} {s : Signature}
    (h : (buildSignature naming path o).outcome = .ok s) :
    s.name = MethodName.synthesize o.verb path ∧ s.route = path ∧ s.verb = o.verb := by
  simp only [buildSignature, Traced.outcome_bind_eq_ok] at h
  obtain ⟨_, _, _, _, _, _, _, _, hs⟩ := h
  cases hs
  exact ⟨rfl, rfl, rfl⟩

theorem declaredArguments_error {context : Option String} {parameters : List Parameter}
    {e : Problem} (h : declaredArguments context parameters = .error e) :
    ∃ c, e = .missingItems c := by
  induction parameters with
  | nil => cases h
  | cons p rest ih =>
    simp only [declaredArguments, except_bind_eq_error, reduceCtorEq, and_false, exists_false,
      or_false] at h
    rcases h with htype | ⟨_, _, hrest⟩
    · exact ⟨_, typeOf_error htype⟩
    · exact ih hrest

theorem bodyArguments_error {context : Option String} {o : Operation} {e : Problem}
    (h : bodyArguments context o = .error e) : ∃ c, e = .missingItems c := by
  unfold bodyArguments at h
  split at h
  · cases h
  · simp only [except_bind_eq_error, reduceCtorEq, and_false, exists_false, or_false] at h
    exact ⟨_, typeOf_error h⟩

theorem buildResult_error {context : Option String} {o : Operation} {e : Problem}
    (h : buildResult context o = .error e) : ∃ c, e = .missingItems c := by
  unfold buildResult at h
  split at h
  · cases h
  · simp only [except_bind_eq_error, reduceCtorEq, and_false, exists_false, or_false] at h
    exact ⟨_, typeOf_error h⟩

theorem buildSignature_error {naming : Naming} {path : String} {o : Operation} {e : Problem}
    (h : (buildSignature naming path o).outcome = .error e) :
    (∃ c, e = .missingItems c) ∨
      ∃ parameter, e = .parameterNameCollision (operationLabel o.verb path) parameter := by
  simp only [buildSignature, Traced.outcome_bind_eq_error, Traced.outcome_lift,
    Traced.outcome_pure, outcome_noteArguments, buildArguments, except_bind_eq_error, reduceCtorEq,
    false_or, or_false, true_and, exists_const, and_false] at h
  rcases h with (hdeclared | ⟨_, _, hbody⟩) | ⟨_, _, hcheck | ⟨_, _, hresult⟩⟩
  · exact .inl (declaredArguments_error hdeclared)
  · exact .inl (bodyArguments_error hbody)
  · unfold checkArguments at hcheck
    split at hcheck
    · exact .inr ⟨_, (Except.error.inj hcheck).symm⟩
    · cases hcheck
  · exact .inl (buildResult_error hresult)

theorem buildSignature_label {naming : Naming} {path : String} {o : Operation} {s : Signature}
    (h : (buildSignature naming path o).outcome = .ok s) :
    s.label = operationLabel o.verb path := by
  obtain ⟨_, hr, hv⟩ := buildSignature_names h
  rw [Signature.label, hr, hv]

/-- The labels of all methods with a name. -/
def labelsOf (name : String) (signatures : List Signature) : List String :=
  (signatures.filter (·.name = name)).map (·.label)

/-- Whether more than one method has a name. -/
def isShared (signatures : List Signature) (name : String) : Bool :=
  1 < (signatures.filter (·.name = name)).length

/-- The names that several methods have, in order of first occurrence. -/
def sharedNames (signatures : List Signature) : List String :=
  (firstOccurrences (signatures.map (·.name))).filter (isShared signatures)

theorem exists_of_isShared {signatures : List Signature} {name : String}
    (h : isShared signatures name = true) : ∃ s ∈ signatures, s.name = name := by
  obtain ⟨s, hs⟩ := List.exists_mem_of_length_pos
    (Nat.lt_trans Nat.zero_lt_one (of_decide_eq_true h))
  rw [List.mem_filter, decide_eq_true_eq] at hs
  exact ⟨s, hs⟩

theorem mem_sharedNames {signatures : List Signature} {name : String} :
    name ∈ sharedNames signatures ↔ isShared signatures name = true := by
  rw [sharedNames, List.mem_filter, mem_firstOccurrences, List.mem_map]
  exact ⟨And.right, fun h => ⟨exists_of_isShared h, h⟩⟩

theorem nodup_sharedNames (signatures : List Signature) : (sharedNames signatures).Nodup :=
  List.Pairwise.filter _ (nodup_firstOccurrences _)

/-- The methods whose name no other method has. -/
def distinctMethods (signatures : List Signature) : List Signature :=
  signatures.filter fun s => !isShared signatures s.name

def collisionIssue (signatures : List Signature) (name : String) : Issue :=
  ⟨name, .methodNameCollision name (labelsOf name signatures)⟩

/-- The methods that refer to present models only. -/
def resolvedMethods (models : List Model) (signatures : List Signature) : List Signature :=
  signatures.filter fun s => (firstMissing models s.references).isNone

/-- The issues of the methods that refer to a missing model. -/
def unresolvedIssues (models : List Model) (signatures : List Signature) : List Issue :=
  signatures.filterMap fun s =>
    (firstMissing models s.references).map fun missing =>
      ⟨s.label, .unresolvedModel s.label missing⟩

end Library

end ApiStubs
