import LittleMonkey.Workflow.TypedRuns

/-! # Idempotency keys

The key of a call hashes the run, the node and the text of the policy, joined with colons; a
colon may also stand inside of each.
-/

namespace LittleMonkey.Workflow

open Primitives List

inductive KeyKind
  | keyed
  | verifiedState
  deriving DecidableEq

def KeyKind.policy : KeyKind → String → IdempotencyPolicy
  | keyed => .keyed
  | verifiedState => .verifiedState

def KeyKind.marker : KeyKind → String
  | keyed => ""
  | verifiedState => "verify:"

/-- What stands before the text of the policy. -/
def keyScope (runId nodeId : String) (kind : KeyKind) : String := runId ++ ":" ++ nodeId ++ ":" ++ kind.marker

/-- No text of the kind starts with what the second scope has more than the first. -/
def Parts (kind : KeyKind) (scope scope' : String) : Prop :=
  ∀ more, scope' = scope ++ more → kind = .verifiedState ∧ 160 ≤ more.utf8ByteSize

theorem policy_inj {kind kind' : KeyKind} {text text' : String} :
    kind.policy text = kind'.policy text' ↔ kind = kind' ∧ text = text' := by
  cases kind <;> cases kind' <;> simp [KeyKind.policy]

theorem textBytes_append (a b : String) : textBytes (a ++ b) = textBytes a ++ textBytes b := by
  simp [textBytes_eq_flatMap]

theorem validateId_ok {label value : String} : validateId label value = .ok () ↔
    value ≠ "" ∧ value.utf8ByteSize ≤ 160 ∧ ∀ c ∈ textBytes value, isIdByte c = true := by
  simp [validateId, and_assoc]

section

variable {m : Machine} {r r' : String} {a b : WorkflowNode} {kind kind' : KeyKind}

theorem idempotencyKey_policy (text : String) :
    idempotencyKey m r { a with idempotency := kind.policy text } =
      some (m.sha (textBytes (keyScope r a.nodeId kind ++ text))) := by
  cases kind <;> simp [idempotencyKey, KeyKind.marker, keyScope, String.append_assoc] <;> rfl

variable (m r r' a b kind kind') in
/-- Equal keys are of one node of one run and of one policy. -/
def Identify : Prop :=
  ∀ text text', validateIdempotency (kind.policy text) = .ok () →
    validateIdempotency (kind'.policy text') = .ok () →
    idempotencyKey m r { a with idempotency := kind.policy text } =
      idempotencyKey m r' { b with idempotency := kind'.policy text' } →
    (r = r' ∧ a.nodeId = b.nodeId) ∧ kind.policy text = kind'.policy text'

theorem Identify.symm (h : Identify m r r' a b kind kind') : Identify m r' r b a kind' kind := by
  intro text text' hText hText' hKey
  obtain ⟨⟨hRun, hNode⟩, hPolicy⟩ := h text' text hText' hText hKey.symm
  exact ⟨⟨hRun.symm, hNode.symm⟩, hPolicy.symm⟩

theorem idBytes_keyScope (hRun : validateId "run_id" r = .ok ())
    (hNode : validateId "node_id" a.nodeId = .ok ()) :
    ∀ c ∈ textBytes (keyScope r a.nodeId kind), isIdByte c = true := by
  intro c hMem
  simp only [keyScope, textBytes_append, mem_append] at hMem
  rcases hMem with (((hMem | hMem) | hMem) | hMem) | hMem
  · exact (validateId_ok.mp hRun).2.2 c hMem
  · revert c
    decide +kernel
  · exact (validateId_ok.mp hNode).2.2 c hMem
  · revert c
    decide +kernel
  · revert c
    cases kind <;> decide +kernel

theorem parts_of_identify (hRun : validateId "run_id" r' = .ok ())
    (hNode : validateId "node_id" b.nodeId = .ok ())
    (hOther : ¬ (r = r' ∧ a.nodeId = b.nodeId ∧ kind = kind')) (h : Identify m r r' a b kind kind') :
    Parts kind (keyScope r a.nodeId kind) (keyScope r' b.nodeId kind') := by
  intro more hMore
  by_contra hRoom
  -- The text of the one policy is the rest of the other scope and the text of the other.
  have hText : validateIdempotency (kind.policy (more ++ "a")) = .ok () := by
    cases kind with
    | keyed => simp [KeyKind.policy, validateIdempotency, isBlank, isWhitespace]
    | verifiedState =>
      have hSize : more.utf8ByteSize < 160 := by simpa using hRoom
      have hBytes := @idBytes_keyScope r' b kind' hRun hNode
      rw [hMore] at hBytes
      have hAll : ∀ c ∈ textBytes (more ++ "a"), isIdByte c = true := by
        intro c hMem
        rw [textBytes_append, mem_append] at hMem
        rcases hMem with hMem | hMem
        · exact hBytes c (mem_append.mpr (.inr hMem))
        · revert c
          decide +kernel
      have hRest : (more ++ "a").utf8ByteSize ≤ 160 := by
        rw [String.utf8ByteSize_append]
        exact hSize
      exact validateId_ok.mpr ⟨by simp, hRest, hAll⟩
  have hText' : validateIdempotency (kind'.policy "a") = .ok () := by
    cases kind' <;> decide +kernel
  have hKey : idempotencyKey m r { a with idempotency := kind.policy (more ++ "a") } =
      idempotencyKey m r' { b with idempotency := kind'.policy "a" } := by
    rw [idempotencyKey_policy, idempotencyKey_policy, hMore, String.append_assoc]
  obtain ⟨⟨hRuns, hNodes⟩, hPolicy⟩ := h _ _ hText hText' hKey
  exact hOther ⟨hRuns, hNodes, (policy_inj.mp hPolicy).1⟩

theorem ne_of_parts {scope scope' text text' more : String} (hParts : Parts kind scope scope')
    (hText : validateIdempotency (kind.policy text) = .ok ())
    (hText' : validateIdempotency (kind'.policy text') = .ok ()) (hScope : scope' = scope ++ more) :
    text ≠ more ++ text' := by
  rintro rfl
  obtain ⟨rfl, hLong⟩ := hParts more hScope
  have hShort := (validateId_ok.mp hText).2.1
  rw [String.utf8ByteSize_append] at hShort
  have hEmpty : text' = "" := String.utf8ByteSize_eq_zero_iff.mp (by omega)
  subst hEmpty
  cases kind' <;> revert hText' <;> decide +kernel

/-- The keys of two nodes identify them exactly if no text of the one's policy can complete its scope
to the scope of the other. -/
theorem keys_identify_iff (hFree : Function.Injective m.sha)
    (hRun : validateId "run_id" r = .ok ()) (hRun' : validateId "run_id" r' = .ok ())
    (hNode : validateId "node_id" a.nodeId = .ok ()) (hNode' : validateId "node_id" b.nodeId = .ok ()) :
    Identify m r r' a b kind kind' ↔ (r = r' ∧ a.nodeId = b.nodeId ∧ kind = kind') ∨
      Parts kind (keyScope r a.nodeId kind) (keyScope r' b.nodeId kind') ∧
        Parts kind' (keyScope r' b.nodeId kind') (keyScope r a.nodeId kind) := by
  constructor
  · intro h
    by_cases hSame : r = r' ∧ a.nodeId = b.nodeId ∧ kind = kind'
    · exact .inl hSame
    · refine .inr ⟨parts_of_identify hRun' hNode' hSame h, parts_of_identify hRun hNode ?_ h.symm⟩
      exact fun hBack => hSame ⟨hBack.1.symm, hBack.2.1.symm, hBack.2.2.symm⟩
  · intro h text text' hText hText' hKey
    rw [idempotencyKey_policy, idempotencyKey_policy] at hKey
    have hJoined := textBytes_injective (hFree (Option.some.inj hKey))
    rcases h with ⟨rfl, hNodes, rfl⟩ | ⟨hParts, hParts'⟩
    · rw [hNodes] at hJoined
      have hTexts : text = text' := by simpa using hJoined
      exact ⟨⟨rfl, hNodes⟩, by rw [hTexts]⟩
    · rcases append_eq_append_cases hJoined with ⟨more, hScope, hRest⟩ | ⟨more, hScope, hRest⟩
      · exact absurd hRest (ne_of_parts hParts hText hText' hScope)
      · exact absurd hRest (ne_of_parts hParts' hText' hText hScope)

end

namespace Release

def keyed (nodeId keyTemplate : String) : WorkflowNode :=
  { node nodeId (.transform "identity") ∅ with idempotency := .keyed keyTemplate }

def verbatim (bytes : Bytes) : String := String.ofList (bytes.map fun c => Char.ofNat c.toNat)

theorem verbatim_injective : Function.Injective verbatim := by
  have hChar : ∀ n < 256, (Char.ofNat n).toNat = n := by decide +kernel
  intro a b h
  refine map_injective_iff.mpr ?_ (String.ofList_injective h)
  intro c d hSame
  have hNat := congrArg Char.toNat hSame
  rw [hChar _ c.toNat_lt, hChar _ d.toNat_lt] at hNat
  exact UInt8.toNat_inj.mp hNat

theorem keys_collide :
    validateId "node_id" "notify" = .ok () ∧ validateId "node_id" "notify:mail" = .ok () ∧
    validateIdempotency (.keyed "mail:once") = .ok () ∧ validateIdempotency (.keyed "once") = .ok () ∧
    idempotencyKey { machine with sha := verbatim } "run-1" (keyed "notify" "mail:once") =
      idempotencyKey { machine with sha := verbatim } "run-1" (keyed "notify:mail" "once") := by
  refine ⟨by decide +kernel, by decide +kernel, by decide +kernel, by decide +kernel, ?_⟩
  exact congrArg (fun text => some (verbatim (textBytes text))) (by decide +kernel)

theorem parts_of_apart {kind : KeyKind} {scope scope' : String}
    (h : ¬ scope.toList <+: scope'.toList) : Parts kind scope scope' := by
  rintro more rfl
  exact absurd ⟨more.toList, String.toList_append.symm⟩ h

theorem runs_identified : Identify { machine with sha := verbatim } "run-1" "run-2"
    (keyed "notify" "once") (keyed "notify:mail" "once") .keyed .keyed := by
  apply (keys_identify_iff verbatim_injective (by decide +kernel) (by decide +kernel) (by decide +kernel)
    (by decide +kernel)).mpr
  exact .inr ⟨parts_of_apart (by decide +kernel), parts_of_apart (by decide +kernel)⟩

end Release

end LittleMonkey.Workflow
