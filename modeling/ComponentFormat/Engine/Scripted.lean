import ComponentFormat.Engine.Basic

/-! # Engines that follow rules

The first rule that applies to a text says what the engine answers; without one the text comes back as it is.
-/
namespace ComponentFormat.Scripted

inductive Action where
  | refuse (message : String)
  | crash
  | giveNothing
  | give (t : Text)
  | replace (old new : Text)
  | wrap (before after : Text)
  | keep
  deriving DecidableEq, Repr

structure Rule where
  /-- The rule applies to texts that hold this one. -/
  needle : Option Text
  action : Action
  deriving DecidableEq, Repr

def Rule.applies (r : Rule) (t : Text) : Bool :=
  match r.needle with
  | none => true
  | some needle => Text.contains needle t

def Action.run (t : Text) : Action → Reply
  | refuse message => .refused message
  | crash => .crashed
  | giveNothing => .nothing
  | give u => .text u
  | replace old new => .text (Text.replaceAll old new t)
  | wrap before after => .text (before ++ t ++ after)
  | keep => .text t

def reply (rules : List Rule) (t : Text) : Reply :=
  match rules.find? (·.applies t) with
  | some r => r.action.run t
  | none => .text t

def engines (markup code stylesheet : List Rule) : Engines where
  markup t _ := reply markup t
  code _ t _ := reply code t
  stylesheet _ t _ := reply stylesheet t

end ComponentFormat.Scripted
