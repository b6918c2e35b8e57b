namespace Descent.Deferred

-- Which deferred parser a handle leads to, and whether through a box. A copy of it is unbuilt again, while copies
-- of a box share what is in it.
inductive Handle where
  | bare (cell : Nat)
  | boxed (cell : Nat)
  deriving DecidableEq, Repr

def Handle.cell : Handle → Nat
  | bare cell => cell
  | boxed cell => cell

structure Store where
  built : Array Bool
  handles : Array Handle
  builds : Nat
  deriving DecidableEq, Repr

namespace Store

def initial : Store := ⟨#[false], #[.bare 0], 0⟩

def isBuilt (store : Store) (handle : Handle) : Bool := store.built.getD handle.cell false

def detail (store : Store) : Handle → String
  | .bare cell => "Deferred \x7b built: " ++ toString (store.built.getD cell false) ++ ", .. \x7d"
  | .boxed _ => "Boxed \x7b .. \x7d"

def addHandle (store : Store) (handle : Handle) : Store :=
  ⟨store.built, store.handles.push handle, store.builds⟩

def addUnbuilt (store : Store) (handle : Nat → Handle) : Store :=
  ⟨store.built.push false, store.handles.push (handle store.built.size), store.builds⟩

def clone (store : Store) : Handle → Store
  | .bare _ => store.addUnbuilt .bare
  | .boxed cell => store.addHandle (.boxed cell)

def box (store : Store) : Handle → Store
  | .bare _ => store.addUnbuilt .boxed
  | .boxed cell => store.addHandle (.boxed cell)

def force (store : Store) (handle : Handle) : Store :=
  if store.isBuilt handle then store
  else ⟨store.built.setIfInBounds handle.cell true, store.handles, store.builds + 1⟩

theorem force_of_isBuilt {store : Store} {handle : Handle} (h : store.isBuilt handle) :
    store.force handle = store := if_pos h

theorem isBuilt_force (store : Store) (handle : Handle) (h : handle.cell < store.built.size) :
    (store.force handle).isBuilt handle = true := by
  unfold force
  split
  · assumption
  · simp [isBuilt, h]

theorem force_force (store : Store) (handle : Handle) (h : handle.cell < store.built.size) :
    (store.force handle).force handle = store.force handle :=
  force_of_isBuilt (isBuilt_force store handle h)

end Store
end Descent.Deferred
