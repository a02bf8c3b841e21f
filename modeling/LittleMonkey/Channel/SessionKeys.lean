import LittleMonkey.Channel.Envelopes
import LittleMonkey.Channel.Turns

/-! # Session keys and dedupe keys

A key joins components of a message with colons.  All but the last make up its head.
-/

namespace LittleMonkey.Channel

open Primitives

def ChannelEnvelope.dedupeKey (e : ChannelEnvelope) : String := s!"{e.accountId}:{e.providerEventId}"

inductive KeyFormat
  | session (scope : SessionScope)
  | event
  | turn (source : ConversationSource)

namespace KeyFormat

def key (e : ChannelEnvelope) : KeyFormat → String
  | session scope => scope.sessionKey e
  | event => e.dedupeKey
  | turn source => dedupeKeyFor source e.accountId e.providerEventId

def Agree (a b : ChannelEnvelope) : KeyFormat → Prop
  | session .thread =>
    a.accountId = b.accountId ∧ a.conversationId = b.conversationId ∧ a.threadId = b.threadId
  | session .conversation => a.accountId = b.accountId ∧ a.conversationId = b.conversationId
  | session .sender => a.accountId = b.accountId ∧ a.senderId = b.senderId
  | session .account => a.accountId = b.accountId
  | event | turn _ => a.accountId = b.accountId ∧ a.providerEventId = b.providerEventId

def head (e : ChannelEnvelope) : KeyFormat → String
  | session scope => "channel:" ++ e.kind.asStr ++ ":" ++ match scope with
    | .thread => e.accountId ++ ":" ++ e.conversationId ++ ":"
    | .conversation => e.accountId ++ ":"
    | .sender => e.accountId ++ ":sender:"
    | .account => ""
  | event => e.accountId ++ ":"
  | turn source => source.asStr ++ ":" ++ e.accountId ++ ":"

def SameHead (a b : ChannelEnvelope) : KeyFormat → Prop
  | session .thread => a.kind = b.kind ∧ a.accountId = b.accountId ∧ a.conversationId = b.conversationId
  | session .conversation | session .sender => a.kind = b.kind ∧ a.accountId = b.accountId
  | session .account => a.kind = b.kind
  | event | turn _ => a.accountId = b.accountId

def Separates (format : KeyFormat) (a b : ChannelEnvelope) : Prop :=
  ∀ a' b', format.SameHead a a' → format.SameHead b b' → format.key a' = format.key b' → format.Agree a' b'

/-- Only a thread may be missing. -/
def last (e : ChannelEnvelope) : KeyFormat → Option String
  | session .thread => e.threadId
  | session .conversation => some e.conversationId
  | session .sender => some e.senderId
  | session .account => some e.accountId
  | event | turn _ => some e.providerEventId

def withLast (e : ChannelEnvelope) (text : String) : KeyFormat → ChannelEnvelope
  | session .thread => { e with threadId := some text }
  | session .conversation => { e with conversationId := text }
  | session .sender => { e with senderId := text }
  | session .account => { e with accountId := text }
  | event | turn _ => { e with providerEventId := text }

def closed (last : Option String) : String := last.elim "" (· ++ ":")

theorem closed_injective : Function.Injective closed := by
  have hEmpty : ∀ text : String, text ++ ":" ≠ "" := by simp
  intro s t h
  cases s <;> cases t
  · rfl
  · exact absurd h.symm (hEmpty _)
  · exact absurd h (hEmpty _)
  · simpa [closed] using h

variable {format : KeyFormat} {a b : ChannelEnvelope}

theorem key_closed (format : KeyFormat) (e : ChannelEnvelope) :
    format.key e ++ ":" = format.head e ++ closed (format.last e) := by
  rcases format with (_ | _ | _ | _) | _ | _
  · cases h : e.threadId <;> simp [key, SessionScope.sessionKey, ChannelEnvelope.defaultSessionKey, h,
      head, last, closed, toString, String.append_assoc]
  all_goals simp [key, SessionScope.sessionKey, ChannelEnvelope.dedupeKey, dedupeKeyFor, head, last, closed,
    toString, String.append_assoc]

theorem key_withLast (format : KeyFormat) (e : ChannelEnvelope) (text : String) :
    format.key (format.withLast e text) = format.head e ++ text := by
  rcases format with (_ | _ | _ | _) | _ | _ <;>
    simp [key, SessionScope.sessionKey, ChannelEnvelope.defaultSessionKey, ChannelEnvelope.dedupeKey,
      dedupeKeyFor, withLast, head, toString, String.append_assoc]

theorem sameHead_withLast (format : KeyFormat) (e : ChannelEnvelope) (text : String) :
    format.SameHead e (format.withLast e text) := by
  rcases format with (_ | _ | _ | _) | _ | _ <;> simp [SameHead, withLast]

theorem SameHead.head_eq (h : format.SameHead a b) : format.head a = format.head b := by
  rcases format with (_ | _ | _ | _) | _ | _ <;> simp_all [SameHead, head]

theorem SameHead.agree (h : format.SameHead a b) (hLast : format.last a = format.last b) :
    format.Agree a b := by
  rcases format with (_ | _ | _ | _) | _ | _ <;> simp_all [SameHead, Agree, last]

theorem SameHead.trans {c} (hab : format.SameHead a b) (hbc : format.SameHead b c) : format.SameHead a c := by
  rcases format with (_ | _ | _ | _) | _ | _ <;> simp_all [SameHead]

theorem SameHead.symm (h : format.SameHead a b) : format.SameHead b a := by
  rcases format with (_ | _ | _ | _) | _ | _ <;> simp_all [SameHead]

/-- No kind has a colon in its name. -/
theorem kind_eq_of_head {scope s t} (h : (session scope).head a ++ s = (session scope).head b ++ t) :
    a.kind = b.kind := by
  let kindText (key : String) := (key.toList.drop 8).takeWhile (· ≠ ':')
  have hText : ∀ e text, kindText ((session scope).head e ++ text) = e.kind.asStr.toList := by
    intro e text
    have hPlain : e.kind.asStr.toList.all (fun c => !decide (c = ':')) = true := by
      cases e.kind <;> decide
    simp [kindText, head, List.takeWhile_append_of_pos (List.all_eq_true.mp hPlain)]
  have hNames : a.kind.asStr = b.kind.asStr :=
    String.toList_injective ((hText a s).symm.trans ((congrArg kindText h).trans (hText b t)))
  revert hNames
  generalize a.kind = k, b.kind = k'
  cases k <;> cases k' <;> decide

theorem Agree.sameHead {s t} (h : format.Agree (format.withLast a s) (format.withLast b t))
    (hHead : format.head a ++ s = format.head b ++ t) : format.SameHead a b := by
  rcases format with scope | _ | _
  · have hKind := kind_eq_of_head hHead
    cases scope <;> simp_all [SameHead, Agree, withLast]
  all_goals exact h.1

theorem Separates.symm (h : format.Separates a b) : format.Separates b a := by
  intro b' a' hb ha hKey
  have hAgree := h a' b' ha hb hKey.symm
  rcases format with (_ | _ | _ | _) | _ | _ <;> simp_all [Agree]

theorem Separates.sameHead (h : format.Separates a b) {more}
    (hHead : format.head b = format.head a ++ more) : format.SameHead a b := by
  have hJoined : format.head a ++ more = format.head b ++ "" := by rw [hHead, String.append_empty]
  have hKey : format.key (format.withLast a more) = format.key (format.withLast b "") := by
    rw [key_withLast, key_withLast, hJoined]
  have hAgree := h _ _ (sameHead_withLast format a more) (sameHead_withLast format b "") hKey
  exact hAgree.sameHead hJoined

/-- The keys of a format tell messages apart exactly if their heads are made of the same
components, or neither head begins with the other. -/
theorem keys_separate_iff (format : KeyFormat) (a b : ChannelEnvelope) :
    format.Separates a b ↔ format.SameHead a b ∨ Apart (format.head a) (format.head b) := by
  constructor
  · intro h
    refine or_iff_not_imp_right.mpr fun hApart => ?_
    obtain ⟨more, hMore | hMore⟩ := exists_append_of_not_apart hApart
    · exact h.sameHead hMore
    · exact (h.symm.sameHead hMore).symm
  · intro h a' b' ha hb hKey
    have hJoined := key_closed format a'
    rw [hKey, key_closed, ← ha.head_eq, ← hb.head_eq] at hJoined
    rcases h with hSame | hApart
    · rw [hSame.head_eq, String.append_right_inj] at hJoined
      exact ((ha.symm.trans hSame).trans hb).agree (closed_injective hJoined).symm
    · exact absurd hJoined.symm (hApart.append_ne _ _)

end KeyFormat

def roomMessage (conversationId : String) (threadId : Option String) : ChannelEnvelope :=
  ⟨"chan-1", .matrix, "e1", none, conversationId, .group, threadId, "ana", none, false, false, "hello", [],
    none, false, 0, none⟩

/-- A room and a thread of another room have one session. -/
theorem room_shares_session : SessionScope.thread.sessionKey (roomMessage "!ops:home" none) =
        SessionScope.thread.sessionKey (roomMessage "!ops" (some "home")) ∧
      ¬ (KeyFormat.session .thread).Agree (roomMessage "!ops:home" none) (roomMessage "!ops" (some "home")) :=
  ⟨by decide +kernel, fun h => absurd h.2.1 (by decide +kernel)⟩

end LittleMonkey.Channel
