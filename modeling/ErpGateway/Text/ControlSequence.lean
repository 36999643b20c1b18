import ErpGateway.Text.Utf8

/-!
Text without the control sequences of a terminal: what moves the cursor or changes colours is left
out, and so are control characters other than blanks.

Octets are skipped until one is shown, and shown until one is not. While octets are shown, they are
looked at as if outside any sequence, but the place in a sequence where a blank interrupted it is
kept, and skipping goes on from there.
-/
namespace ErpGateway.Text.ControlSequence

inductive State where
  | ground
  | escape | escapeIntermediate
  | controlEntry | controlParameter | controlIntermediate | controlIgnored
  | deviceEntry | deviceParameter | deviceIntermediate | deviceIgnored | deviceText
  | systemText | otherText
deriving DecidableEq, Repr

namespace State

def anywhere? (b : UInt8) : Option State :=
  if b == 0x18 || b == 0x1A then some ground
  else if b == 0x1B then some escape
  else none

def isIntermediate (b : UInt8) : Bool := 0x20 ≤ b && b ≤ 0x2F

def isParameter (b : UInt8) : Bool := 0x30 ≤ b && b ≤ 0x3F

def isPlainParameter (b : UInt8) : Bool := 0x30 ≤ b && b ≤ 0x3B

def isFinal (b : UInt8) : Bool := 0x40 ≤ b && b ≤ 0x7E

def afterEscape (b : UInt8) : State :=
  if isIntermediate b then escapeIntermediate
  else if b == 0x5B then controlEntry
  else if b == 0x5D then systemText
  else if b == 0x50 then deviceEntry
  else if b == 0x58 || b == 0x5E || b == 0x5F then otherText
  else if 0x30 ≤ b && b ≤ 0x7E then ground
  else escape

def within (s : State) (b : UInt8) : State :=
  match s with
  | ground => ground
  | escape => afterEscape b
  | escapeIntermediate => if 0x30 ≤ b && b ≤ 0x7E then ground else s
  | controlEntry =>
    if isFinal b then ground
    else if isIntermediate b then controlIntermediate
    else if isParameter b then controlParameter else s
  | controlParameter =>
    if isFinal b then ground
    else if isIntermediate b then controlIntermediate
    else if isParameter b && !isPlainParameter b then controlIgnored else s
  | controlIntermediate =>
    if isFinal b then ground else if isParameter b then controlIgnored else s
  | controlIgnored => if isFinal b then ground else s
  | deviceEntry =>
    if isFinal b then deviceText
    else if isIntermediate b then deviceIntermediate
    else if b == 0x3A then deviceIgnored
    else if isParameter b then deviceParameter else s
  | deviceParameter =>
    if isFinal b then deviceText
    else if isIntermediate b then deviceIntermediate
    else if isParameter b && (b == 0x3A || !isPlainParameter b) then deviceIgnored else s
  | deviceIntermediate =>
    if isFinal b then deviceText else if isParameter b then deviceIgnored else s
  | deviceIgnored | deviceText | otherText => if b == 0x9C then ground else s
  | systemText => if b == 0x07 then ground else s

def next (s : State) (b : UInt8) : State :=
  (anywhere? b).getD (within s b)

def obeysControls : State → Bool
  | ground | escape | escapeIntermediate | controlEntry | controlParameter | controlIntermediate
  | controlIgnored => true
  | _ => false

end State

def isControlBlank (b : UInt8) : Bool :=
  b == 0x09 || b == 0x0A || b == 0x0C || b == 0x0D

def isShown (s : State) (b : UInt8) : Bool :=
  (s = .ground && ((0x20 ≤ b && b < 0x7F) || (0xC2 ≤ b && b ≤ 0xF4))) ||
    (s.obeysControls && isControlBlank b)

def tailLength (b : UInt8) : Nat :=
  (leadOf b).elim 0 fun lead => lead.1 - 1

/-- The octets that are shown. `showing` tells whether the one before was; the first `tail` octets
belong to a character that is shown, after which no sequence is open. -/
def shownFrom (showing : Bool) (s : State) : (tail : Nat) → Octets → Octets
  | _, [] => []
  | tail + 1, b :: rest => b :: shownFrom true s tail rest
  | 0, b :: rest =>
    if isShown s b || (showing && isShown .ground b) then
      b :: shownFrom true (if 0x80 ≤ b then .ground else s) (tailLength b) rest
    else shownFrom false (s.next b) 0 rest

def removed (s : String) : String :=
  ofUtf8Lossy (shownFrom false .ground 0 (utf8 s))

theorem shownFrom_of_printable {octets : Octets} (h : ∀ b ∈ octets, 0x20 ≤ b ∧ b < 0x7F)
    (showing : Bool) : shownFrom showing .ground 0 octets = octets := by
  induction octets generalizing showing with
  | nil => rfl
  | cons b rest ih =>
    have hb := h b (by simp)
    have hr := ih fun c hc => h c (by simp [hc])
    have hn : leadOf b = none := by
      simp only [leadOf]
      grind
    simp [shownFrom, isShown, hb, tailLength, hn, hr]

end ErpGateway.Text.ControlSequence
