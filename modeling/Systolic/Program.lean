import Systolic.Failure
import Systolic.Memory
import Systolic.Polling

namespace Systolic

/-- What a host does to a board, access by access, with every next step waiting for what the last read
gave. A program fixes nothing about the board: it may answer a read with any value. Nor does it fix how
time passes: it starts a clock, and then looks at it while it waits. Ranges of shared memory are checked
before a program asks for them. A program that halts has no result and does nothing more. -/
inductive Program (α : Type) where
  | done (a : α)
  | read (offset : Nat) (next : UInt32 → Program α)
  | write (offset : Nat) (value : UInt32) (next : Program α)
  | load (offset len : Nat) (next : List UInt8 → Program α)
  | store (offset : Nat) (bytes : List UInt8) (next : Program α)
  | clear (offset len : Nat) (next : Program α)
  | time (next : Clock → Program α)
  | halt

namespace Program

variable {α β γ : Type}

def bind : Program α → (α → Program β) → Program β
  | done a, f => f a
  | read offset next, f => read offset fun value => (next value).bind f
  | write offset value next, f => write offset value (next.bind f)
  | load offset len next, f => load offset len fun bytes => (next bytes).bind f
  | store offset bytes next, f => store offset bytes (next.bind f)
  | clear offset len next, f => clear offset len (next.bind f)
  | time next, f => time fun clock => (next clock).bind f
  | halt, _ => halt

instance : Monad Program where
  pure := done
  bind := bind

theorem bind_done (p : Program α) : p.bind done = p := by
  induction p <;> simp_all [bind]

theorem bind_assoc (p : Program α) (f : α → Program β) (g : β → Program γ) :
    (p.bind f).bind g = p.bind fun a => (f a).bind g := by
  induction p <;> simp_all [bind]

instance : LawfulMonad Program :=
  LawfulMonad.mk' Program (fun p => bind_done p) (fun _ _ => rfl) (fun p f g => bind_assoc p f g)

def readRegister (offset : Nat) : Program UInt32 := read offset done

def writeRegister (offset : Nat) (value : UInt32) : Program Unit := write offset value (done ())

/-- Reads one register until `done` holds of what it gives or the limit is reached. -/
def pollRegister (limit : PollLimit) (offset : Nat) (done : UInt32 → Bool) : Program PollOutcome :=
  time fun clock => limit.poll clock (done <$> readRegister offset)

def loadBytes (offset len : Nat) : Program (List UInt8) := load offset len done

def storeBytes (offset : Nat) (bytes : List UInt8) : Program Unit := store offset bytes (done ())

def clearBytes (offset len : Nat) : Program Unit := clear offset len (done ())

end Program

/-- A program that may find that it cannot go on. -/
abbrev Attempt := ExceptT Failure Program

end Systolic
