import Mathlib.Data.List.Sort
import LittleMonkey.Daemon.Signatures

/-! # The event stream of a model

`SseParser` cuts what arrives into lines and collects the fragments of tool calls under
their index until the stream says that they are complete.  The JSON parser is a parameter.
-/

namespace LittleMonkey.Client

open Primitives Daemon.Trigger List

inductive StreamEvent
  | delta (text : String)
  | toolCall (id name arguments : String)
  | error (reason : String)
  | usage (promptTokens completionTokens totalTokens : Nat)

structure PendingToolCall where
  (id name arguments : String)

structure SseParser where
  lineBuffer : List Char
  pending : Table Nat PendingToolCall

def SseParser.new : SseParser := ⟨[], ∅⟩

def asU64 : Json → Option Nat
  | .number text => text.toNat?.filter (· < 2 ^ 64)
  | _ => none

def asArray : Json → Option (List Json)
  | .array items => some items
  | _ => none

def trim (text : List Char) : List Char :=
  ((text.dropWhile isWhitespace).reverse.dropWhile isWhitespace).reverse

/-- The events of the calls in the order of their indices; none is left. -/
def flushPending (pending : Table Nat PendingToolCall) : List StreamEvent :=
  (pending.entries.insertionSort fun a b => a.1 ≤ b.1).map fun entry =>
    .toolCall (if entry.2.id.isEmpty then "call_" ++ toString entry.1 else entry.2.id) entry.2.name
      entry.2.arguments

def addFragment (pending : Table Nat PendingToolCall) (fragment : Json) : Table Nat PendingToolCall :=
  let index := ((fragment.get "index").bind asU64).getD 0
  let entry := (pending.lookup index).getD ⟨"", "", ""⟩
  let part (key : String) := ((fragment.get "function").bind (·.get key)).bind Json.asStr
  pending.insert index
    ⟨((fragment.get "id").bind Json.asStr).getD entry.id, (part "name").getD entry.name,
      entry.arguments ++ (part "arguments").getD ""⟩

def tokens (usage : Json) (key : String) : Nat := ((usage.get key).bind asU64).getD 0

/-- What the first choice of a frame adds. -/
def handleChoice (choice : Json) (pending : Table Nat PendingToolCall) :
    List StreamEvent × Table Nat PendingToolCall :=
  let delta (key : String) := (choice.get "delta").bind (·.get key)
  let content := ((delta "content").bind Json.asStr).filter (!·.isEmpty)
  let pending := (((delta "tool_calls").bind asArray).getD []).foldl addFragment pending
  let texts := content.toList.map .delta
  if (choice.get "finish_reason").any (· matches .null) || (choice.get "finish_reason").isNone then (texts, pending)
  else (texts ++ flushPending pending, ∅)

def handlePayload (payload : Json) (pending : Table Nat PendingToolCall) :
    List StreamEvent × Table Nat PendingToolCall :=
  match payload.get "error" with
  | some error =>
    let reason := error.asStr.or ((error.get "message").bind Json.asStr)
    ([.error (reason.getD "The model runtime failed the request without saying why.")], pending)
  | none =>
    let usage := (payload.get "usage").toList.map fun usage =>
      .usage (tokens usage "prompt_tokens") (tokens usage "completion_tokens") (tokens usage "total_tokens")
    match ((payload.get "choices").bind asArray).bind (·[0]?) with
    | none => (usage, pending)
    | some choice =>
      let handled := handleChoice choice pending
      (usage ++ handled.1, handled.2)

section

variable (parse : String → Option Json)

def handleLine (rawLine : List Char) (pending : Table Nat PendingToolCall) :
    List StreamEvent × Table Nat PendingToolCall :=
  match (trim rawLine).dropPrefix? "data:".toList with
  | none => ([], pending)
  | some data =>
    let data := String.ofList (trim data)
    if data.isEmpty || data == "[DONE]" then ([], pending)
    else (parse data).elim ([], pending) fun payload => handlePayload payload pending

def handleLines : List (List Char) → Table Nat PendingToolCall → List StreamEvent × Table Nat PendingToolCall
  | [], pending => ([], pending)
  | line :: rest, pending =>
    let handled := handleLine parse line pending
    let later := handleLines rest handled.2
    (handled.1 ++ later.1, later.2)

def feed (text : String) (p : SseParser) : List StreamEvent × SseParser :=
  let lines := (p.lineBuffer ++ text.toList).splitOn '\n'
  let handled := handleLines parse lines.dropLast p.pending
  (handled.1, ⟨lines.getLast?.getD [], handled.2⟩)

def flush (p : SseParser) : List StreamEvent :=
  let handled := if p.lineBuffer.all isWhitespace then ([], p.pending) else handleLine parse p.lineBuffer p.pending
  handled.1 ++ flushPending handled.2

def feedNext (fed : List StreamEvent × SseParser) (piece : String) : List StreamEvent × SseParser :=
  (fed.1 ++ (feed parse piece fed.2).1, (feed parse piece fed.2).2)

/-- The events of a stream that arrives in these pieces. -/
def streamed (pieces : List String) : List StreamEvent :=
  let fed := pieces.foldl (feedNext parse) ([], .new)
  fed.1 ++ flush parse fed.2

end

/-! ## Pieces -/

/-- The last piece is still open when more text follows. -/
theorem splitOn_append {α : Type} [BEq α] (sep : α) (xs ys : List α) : (xs ++ ys).splitOn sep =
    (xs.splitOn sep).dropLast ++ ((xs.splitOn sep).getLast?.getD [] ++ ys).splitOn sep := by
  induction xs with
  | nil => simp
  | cons x xs ih =>
    obtain ⟨line, lines, hLines⟩ := exists_cons_of_ne_nil (splitOn_ne_nil sep xs)
    rw [cons_append, splitOn_cons_eq_if_modifyHead, splitOn_cons_eq_if_modifyHead, ih, hLines]
    split
    · rfl
    next hSep =>
      cases lines with
      | nil => simp [splitOn_cons_eq_if_modifyHead, hSep]
      | cons next rest => rfl

variable {parse : String → Option Json}

theorem handleLines_append (lines rest : List (List Char)) (pending : Table Nat PendingToolCall) :
    handleLines parse (lines ++ rest) pending =
      ((handleLines parse lines pending).1 ++ (handleLines parse rest (handleLines parse lines pending).2).1,
        (handleLines parse rest (handleLines parse lines pending).2).2) := by
  induction lines generalizing pending with
  | nil => rfl
  | cons line lines ih => simp [handleLines, ih]

theorem feed_append (first second : String) (p : SseParser) :
    feed parse (first ++ second) p = feedNext parse (feed parse first p) second := by
  have hRest := splitOn_ne_nil '\n'
    (((p.lineBuffer ++ first.toList).splitOn '\n').getLast?.getD [] ++ second.toList)
  simp only [feedNext, feed, String.toList_append, ← append_assoc]
  rw [splitOn_append, dropLast_append_of_ne_nil hRest, handleLines_append, List.getLast?_append_of_ne_nil _ hRest]

theorem feedNext_foldl (pieces : List String) (text : String) (p : SseParser) :
    pieces.foldl (feedNext parse) (feed parse text p) = feed parse (pieces.foldl (· ++ ·) text) p := by
  induction pieces generalizing text with
  | nil => rfl
  | cons piece rest ih => rw [foldl_cons, foldl_cons, ← feed_append, ih]

/-- The events do not depend on how the text is cut. -/
theorem streamed_eq_whole (parse : String → Option Json) (pieces : List String) :
    streamed parse pieces = streamed parse [String.join pieces] := by
  have hPieces := @feedNext_foldl parse pieces "" .new
  have hStart : feed parse "" .new = ([], .new) := rfl
  rw [hStart] at hPieces
  rw [streamed, hPieces]
  rfl

end LittleMonkey.Client
