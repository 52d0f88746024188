import Upkeep.Decode
import Upkeep.Decision.Action
/-!
The written form of actions, statistics, dispositions and decisions.

Actions and dispositions are tagged records: the entry `action` or `disposition` holds the name of
the case, and the other entries belong to it.
-/

namespace Upkeep

def CommentKind.ofValue : Decoder CommentKind := fun v => do
  match ← Decoder.taggedName v with
  | "staleness" => .ok .staleness
  | "closing" => .ok .closing
  | _ => .error .malformed

namespace Action

def toValue : Action → Value
  | addLabel label => .table [("action", .text "add_label"), ("label", .text label)]
  | removeLabel label => .table [("action", .text "remove_label"), ("label", .text label)]
  | postComment kind body =>
    .table [("action", .text "post_comment"), ("kind", .text kind.text), ("body", .text body)]
  | removeComment => .table [("action", .text "remove_comment")]
  | close => .table [("action", .text "close")]

/-- The label of an action on a label. -/
def labelOf (rest : Value) : Except DecodeError String := do
  let fields ← rest.record [.required "label" Decoder.text] false
  Fields.required fields "label" Decoder.text

/-- The comment of an action that posts one. -/
def commentOf (rest : Value) : Except DecodeError (CommentKind × String) := do
  let fields ← rest.record
    [.required "kind" CommentKind.ofValue, .required "body" Decoder.text] false
  let kind ← Fields.required fields "kind" CommentKind.ofValue
  let body ← Fields.required fields "body" Decoder.text
  return (kind, body)

def ofValue : Decoder Action := fun v => do
  let (tag, rest) ← v.tagged "action"
  match tag with
  | "add_label" => (labelOf rest).map addLabel
  | "remove_label" => (labelOf rest).map removeLabel
  | "post_comment" => (commentOf rest).map fun (kind, body) => postComment kind body
  | "remove_comment" => (Decoder.nothing rest).map fun _ => removeComment
  | "close" => (Decoder.nothing rest).map fun _ => close
  | _ => .error .malformed

end Action

namespace Stats

def toValue (s : Stats) : Value :=
  .table [("marked_stale", .ofNat s.markedStale), ("closed", .ofNat s.closed),
    ("marked_needs_triage", .ofNat s.markedNeedsTriage),
    ("marked_needs_escalation", .ofNat s.markedNeedsEscalation)]

def shape : List FieldShape :=
  [.required "marked_stale" Decoder.nat32, .required "closed" Decoder.nat32,
    .required "marked_needs_triage" Decoder.nat32,
    .required "marked_needs_escalation" Decoder.nat32]

def ofValue : Decoder Stats := fun v => do
  let fields ← v.record shape false
  return {
    markedStale := ← Fields.required fields "marked_stale" Decoder.nat32
    closed := ← Fields.required fields "closed" Decoder.nat32
    markedNeedsTriage := ← Fields.required fields "marked_needs_triage" Decoder.nat32
    markedNeedsEscalation := ← Fields.required fields "marked_needs_escalation" Decoder.nat32 }

end Stats

namespace Disposition

/-- The name of a disposition. -/
def tag : Disposition → String
  | tooNew => "too_new"
  | ignored _ => "ignored"
  | closed => "closed"
  | needsTriage => "needs_triage"
  | staleproof => "staleproof"
  | closing => "closing"
  | stale => "stale"
  | active => "active"

def toValue (d : Disposition) : Value :=
  match d with
  | ignored label => .table [("disposition", .text d.tag), ("label", .text label)]
  | _ => .table [("disposition", .text d.tag)]

/-- The dispositions that are known by their name alone. -/
def plain : List Disposition :=
  [tooNew, closed, needsTriage, staleproof, closing, stale, active]

def ofValue : Decoder Disposition := fun v => do
  let (tag, rest) ← v.tagged "disposition"
  if tag = "ignored" then
    let fields ← rest.record [.required "label" Decoder.text] false
    (Fields.required fields "label" Decoder.text).map ignored
  else
    match plain.find? (·.tag == tag) with
    | some d => (Decoder.nothing rest).map fun _ => d
    | none => .error .malformed

end Disposition

namespace Decision

def toValue (d : Decision) : Value :=
  .table [("actions", .list (d.actions.map Action.toValue)), ("stats", d.stats.toValue),
    ("disposition", d.disposition.toValue)]

def shape : List FieldShape :=
  [.required "actions" (Decoder.list Action.ofValue), .required "stats" Stats.ofValue,
    .required "disposition" Disposition.ofValue]

def ofValue : Decoder Decision := fun v => do
  let fields ← v.record shape false
  return {
    actions := ← Fields.required fields "actions" (Decoder.list Action.ofValue)
    stats := ← Fields.required fields "stats" Stats.ofValue
    disposition := ← Fields.required fields "disposition" Disposition.ofValue }

end Decision

end Upkeep
