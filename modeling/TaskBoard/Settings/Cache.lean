import TaskBoard.Settings.Basic

/-! Settings that are remembered by the arguments they were made from. -/

namespace TaskBoard.Settings

structure Cache where
  entries : List (Arguments × Settings) := []

def capacity : Nat := 128

def sameNumber (v w : Value) : Bool :=
  let whole := fun (v : Value) => match v with
    | .int n => some n
    | .bool b => some (if b then 1 else 0)
    | .float x => if x.isWhole then x.truncate? else none
    | _ => none
  match whole v, whole w with
  | some n, some m => n == m
  | none, none => match v, w with
    | .float x, .float y => x == y && x != .nan
    | _, _ => false
  | _, _ => false

def sameValue (v w : Value) : Bool :=
  match v, w with
  | .null, .null => true
  | .text s, .text t => s == t
  | .time s, .time t => s.sameTime t
  | v, w => sameNumber v w

def sameArguments : Arguments → Arguments → Bool
  | [], [] => true
  | a :: as, b :: bs => a.1 == b.1 && sameValue a.2 b.2 && sameArguments as bs
  | _, _ => false

def unusable? (arguments : Arguments) : Option Failure :=
  arguments.findSome? fun a =>
    match a.2 with
    | .list _ => some (.type "unhashable type: 'list'")
    | .map _ => some (.type "unhashable type: 'dict'")
    | _ => none

def present (arguments : Arguments) : Arguments :=
  arguments.filter fun a => match a.2 with
    | .null => false
    | _ => true

def obtain (collection : Collection) (cache : Cache) (sources : Sources) (arguments : Arguments) :
    Except Failure Settings × Cache :=
  match unusable? arguments with
  | some f => (.error f, cache)
  | none =>
    match cache.entries.find? fun e => sameArguments e.1 arguments with
    | some e => (.ok e.2, ⟨e :: cache.entries.filter fun e => !sameArguments e.1 arguments⟩)
    | none =>
      match make collection { sources with arguments := present arguments } with
      | .ok settings => (.ok settings, ⟨((arguments, settings) :: cache.entries).take capacity⟩)
      | .error f => (.error f, cache)

end TaskBoard.Settings
