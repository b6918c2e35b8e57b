import Descent.Grammar.Parts
import Descent.Grammar.Rewrite
import Descent.Proofs.Coupling.Combinators

namespace Descent
variable {ε χ χ' χ₀ ι : Type} {τ : ι → Type} {s t : Source ε}

def Places.Fits (P : Places s t) {α : Type} : Grammar ε χ₀ τ α → Prop
  | .primitive (.fail reason) => ∀ {i j}, P.place i j → P.failure (.of reason i) (.of reason j)
  | .primitive .position | .ranged _ => ∀ {i j}, P.place i j → i = j
  | .tryMap f _ =>
    ∀ {v fault i j}, f v = .error fault → P.place i j → P.failure (.lift fault i) (.lift fault j)
  | .notAhead _ => ∀ {i j}, P.place i j → P.failure (.noMatch i) (.noMatch j)
  | @Grammar.choice _ _ _ _ _ n _ => n = 0 → ∀ {i j}, P.place i j → P.failure (.noMatch i) (.noMatch j)
  | .repeated least most _ =>
    most < least → ∀ {i j}, P.place i j → P.failure (.outOfBounds i) (.outOfBounds j)
  | _ => True

theorem Places.fits_within {Q : Nat → Prop}
    (next : ∀ {i next : Nat} {e : ε}, Q i → s.elementAt? i = some (e, next) → Q next) {α : Type}
    (g : Grammar ε χ₀ τ α) : (within s Q next).Fits g := by
  cases g with
  | primitive p =>
    cases p with
    | fail reason => intro i j here; rw [here.1]; rfl
    | position => exact fun here => here.1
    | _ => trivial
  | tryMap f p => intro v fault i j _ here; rw [here.1]; rfl
  | ranged p => exact fun here => here.1
  | choice ps => intro _ i j here; rw [here.1]; rfl
  | notAhead p => intro i j here; rw [here.1]; rfl
  | repeated least most p => intro _ i j here; rw [here.1]; rfl
  | _ => trivial

theorem Places.fits_everywhere (s : Source ε) {α : Type} (g : Grammar ε χ₀ τ α) : (everywhere s).Fits g :=
  fits_within (fun _ _ => trivial) g

theorem Places.fits_boundaries (s : Source ε) {α : Type} (g : Grammar ε χ₀ τ α) : (boundaries s).Fits g :=
  fits_within (fun _ found => (Source.boundary_of_elementAt? found).2.1) g

namespace Coupling

def Carries [DecidableEq ε] (C : Coupling s t χ' χ) (c : Conversion ε χ χ' τ) {α : Type} :
    Grammar ε χ τ α → Prop
  | .traced tag render _ => ∀ {call} {p : Grammar ε χ' τ _} {q}, C.Relates (p.parserWith call) q →
    C.Relates ((c.traced tag render p).parserWith call) (q.traced tag render)
  | .mapContext f _ => ∀ {call} {p : Grammar ε χ' τ _} {q}, C.Relates (p.parserWith call) q →
    C.Relates ((c.mapContext f p).parserWith call) (q.mapContext f)
  | .custom _ body => ∀ {call} {ps : Fin _ → Grammar ε χ' τ _} {qs},
    (∀ k, C.Relates ((ps k).parserWith call) (qs k)) → C.Relates ((c.custom ps body).parserWith call) (body qs)
  | _ => True

theorem At.primitive [DecidableEq ε] {C : Coupling s t χ χ'} {α : Type} {p : Primitive ε α}
    (fits : C.Fits (.primitive p : Grammar ε χ₀ τ α)) {i j : Nat} (here : C.place i j) :
    C.At i j (i + p.consumes.toNat) (.primitive p) (.primitive p) := by
  apply Acts.ofExcept
  cases p with
  | any => exact Places.element_verdicts some here
  | the e => exact Places.element_verdicts (Option.guard (· = e)) here
  | oneOf es => exact Places.element_verdicts (Option.guard (· ∈ es)) here
  | noneOf es => exact Places.element_verdicts (Option.guard (· ∉ es)) here
  | satisfy test => exact Places.element_verdicts (Option.guard (test ·)) here
  | extract get => exact Places.element_verdicts get here
  | sequence es => exact Places.sequence_verdicts es here
  | finish => exact Places.finish_verdicts here
  | just output => exact .ok (.zeroWidth here output)
  | fail reason => exact .error (fits here)
  | position =>
    cases fits here
    exact .ok (.zeroWidth here i)

theorem forall₂_ofFn {α : Type} {R : Parser ε χ α → Parser ε χ' α → Prop} {n : Nat} {ps : Fin n → Parser ε χ α}
    {qs : Fin n → Parser ε χ' α} (related : ∀ k, R (ps k) (qs k)) :
    List.Forall₂ R (List.ofFn ps) (List.ofFn qs) := by
  induction n with
  | zero => simp
  | succ n ih =>
    rw [List.ofFn_succ, List.ofFn_succ]
    exact .cons (related 0) (ih fun k => related k.succ)

-- The same along a family of couplings. What becomes of the part may need its own parts to act alike along
-- other couplings than the one it acts alike along itself.
def CarriesEach [DecidableEq ε] {κ : Type} (C : κ → Coupling s t χ' χ) (c : Conversion ε χ χ' τ) {α : Type} :
    Grammar ε χ τ α → Prop
  | .traced tag render _ => ∀ {call} {p : Grammar ε χ' τ _} {q}, (∀ k, (C k).Relates (p.parserWith call) q) →
    ∀ k, (C k).Relates ((c.traced tag render p).parserWith call) (q.traced tag render)
  | .mapContext f _ => ∀ {call} {p : Grammar ε χ' τ _} {q}, (∀ k, (C k).Relates (p.parserWith call) q) →
    ∀ k, (C k).Relates ((c.mapContext f p).parserWith call) (q.mapContext f)
  | .custom _ body => ∀ {call} {ps : Fin _ → Grammar ε χ' τ _} {qs},
    (∀ k part, (C k).Relates ((ps part).parserWith call) (qs part)) →
      ∀ k, (C k).Relates ((c.custom ps body).parserWith call) (body qs)
  | _ => True

theorem Carries.each [DecidableEq ε] {C : Coupling s t χ' χ} {c : Conversion ε χ χ' τ} {α : Type}
    {g : Grammar ε χ τ α} (carries : C.Carries c g) : CarriesEach (fun _ : Unit => C) c g := by
  cases g with
  | traced tag render p => exact fun related _ => carries (related ())
  | mapContext f p => exact fun related _ => carries (related ())
  | custom parts body => exact fun related _ => carries (related ())
  | _ => trivial

section Converted
variable [DecidableEq ε] {c : Conversion ε χ χ' τ}

-- By induction on the grammar. The conversion is applied to a part whose own parts are related
-- already.
theorem relates_converted_each {κ : Type} {C : κ → Coupling s t χ' χ} {call : ∀ r, Parser ε χ' (τ r)}
    {call' : ∀ r, Parser ε χ (τ r)} (calls : ∀ k r, (C k).Relates (call r) (call' r))
    (changes : ∀ k {call : ∀ r, Parser ε χ' (τ r)} {α : Type} {g : Grammar ε χ' τ α} {q : Parser ε χ α},
      (C k).Relates (g.parserWith call) q → (C k).Relates ((c.change α g).parserWith call) q)
    {α : Type} {g : Grammar ε χ τ α} (fits : g.Forall fun g => (∀ k, (C k).Fits g) ∧ CarriesEach C c g) (k : κ) :
    (C k).Relates ((g.convert c).parserWith call) (g.parserWith call') := by
  induction g generalizing k with
  | primitive p =>
    exact changes k fun i j here => (At.primitive (fits.1.1 k) here).weaken (Nat.le_add_right i _)
  | map f p ih => exact changes k fun i j here => (ih fits.2 k here).map f
  | tryMap f p ih => exact changes k fun i j here => (ih fits.2 k here).tryMap fun rejected => fits.1.1 k rejected here
  | mapContext f p ih => exact fits.1.2 (ih fits.2) k
  | ranged p ih => exact changes k fun i j here => (ih fits.2 k here).ranged (fits.1.1 k) here
  | traced tag render p ih => exact fits.1.2 (ih fits.2) k
  | flatMap p f ih next =>
    exact changes k fun i j here => (ih fits.2.1 k here).flatMap fun v _ _ there forward =>
      (next v (fits.2.2 v) k there).weaken forward
  | andThen f p q ih ih' =>
    exact changes k fun i j here => (ih fits.2.1 k here).andThen f fun there forward =>
      (ih' fits.2.2 k there).weaken forward
  | chain ps ih =>
    exact changes k fun i j here => .chain (.outputs (forall₂_ofFn fun part => ih part (fits.2 part) k) here)
  | orElse p q ih ih' => exact changes k fun i j here => (ih fits.2.1 k here).orElse (ih' fits.2.2 k here)
  | choice ps ih =>
    apply changes k
    intro i j here
    refine .choice (forall₂_ofFn fun part => ih part (fits.2 part) k here) ?_
    intro empty
    exact fits.1.1 k (List.ofFn_eq_nil_iff.mp empty) here
  | cascade p ps ih rest =>
    exact changes k fun i j here =>
      .cascade (ih fits.2.1 k here) (forall₂_ofFn fun part => rest part (fits.2.2 part) k here)
  | opt p ih => exact changes k fun i j here => (ih fits.2 k here).opt here
  | peek p ih => exact changes k fun i j here => (ih fits.2 k here).peek here
  | notAhead p ih => exact changes k fun i j here => (ih fits.2 k here).notAhead (fits.1.1 k here) here
  | repeated least most p ih =>
    exact changes k fun i j here =>
      .repeated (fun crossed => fits.1.1 k crossed here) here fun there _ => ih fits.2 k there
  | deferred r => exact changes k (calls k r)
  | custom parts body ih => exact fits.1.2 (fun k part => ih part (fits.2 part) k) k

-- By induction on the depth, so that recursion through rules needs no argument of its own.
theorem relates_run_each {κ : Type} {C : κ → Coupling s t χ' χ} {P : ∀ {α : Type}, Grammar ε χ τ α → Prop}
    (cut : ∀ k {σ : Type} {alike : σ → σ → Prop}, (C k).Acts alike .cut .cut)
    (changes : ∀ k {call : ∀ r, Parser ε χ' (τ r)} {α : Type} {g : Grammar ε χ' τ α} {q : Parser ε χ α},
      (C k).Relates (g.parserWith call) q → (C k).Relates ((c.change α g).parserWith call) q)
    (parts : ∀ {α : Type} {g : Grammar ε χ τ α}, P g → (∀ k, (C k).Fits g) ∧ CarriesEach C c g)
    {rules : Rules ε χ τ} (all_rules : ∀ r, (rules r).Forall P) {α : Type} {g : Grammar ε χ τ α} (all : g.Forall P)
    (depth : Nat) (k : κ) :
    (C k).Relates ((g.convert c).parser (rules.convert c) depth) (g.parser rules depth) := by
  have calls (k : κ) (r : ι) : (C k).Relates ((rules.convert c).call depth r) (rules.call depth r) := by
    induction depth generalizing k r with
    | zero => exact fun _ _ _ => cut k
    | succ depth ih => exact relates_converted_each ih changes ((all_rules r).mono parts) k
  exact relates_converted_each calls changes (all.mono parts) k

variable {C : Coupling s t χ' χ}

theorem relates_run {P : ∀ {α : Type}, Grammar ε χ τ α → Prop}
    (cut : ∀ {σ : Type} {alike : σ → σ → Prop}, C.Acts alike .cut .cut)
    (changes : ∀ {call : ∀ k, Parser ε χ' (τ k)} {α : Type} {g : Grammar ε χ' τ α} {q : Parser ε χ α},
      C.Relates (g.parserWith call) q → C.Relates ((c.change α g).parserWith call) q)
    (parts : ∀ {α : Type} {g : Grammar ε χ τ α}, P g → C.Fits g ∧ C.Carries c g) {rules : Rules ε χ τ}
    (all_rules : ∀ k, (rules k).Forall P) {α : Type} {g : Grammar ε χ τ α} (all : g.Forall P) (depth : Nat) :
    C.Relates ((g.convert c).parser (rules.convert c) depth) (g.parser rules depth) :=
  relates_run_each (fun _ => cut) (fun _ => changes)
    (fun fits => ⟨fun _ => (parts fits).1, (parts fits).2.each⟩) all_rules all depth ()

end Converted
end Coupling
end Descent
