import Descent.Grammar.Forms
import Descent.Proofs.Coupling.Grammar
import Descent.Proofs.Termination.Rations
import Mathlib.Data.Bool.Basic

namespace Descent
variable {ε χ ι : Type} {τ : ι → Type}

def Grammar.ration (turns : Nat) : ∀ α : Type, Grammar ε χ τ α → Grammar ε χ τ α
  | _, .repeated least most p => p.around (Parser.repeatedFor turns least most)
  | _, g => g

namespace Grammar

theorem toNat_or_le (a b : Bool) : (a || b).toNat ≤ a.toNat + b.toNat := by
  cases a <;> cases b <;> decide

theorem consumes_eq_false_of_still {consumes : Bool} {i : Nat} (still : i + consumes.toNat ≤ i) :
    consumes = false :=
  Bool.toNat_eq_zero.mp (by omega)

theorem consumes_chain_succ {α : Type} {n : Nat} (ps : Fin (n + 1) → Grammar ε χ τ α) :
    (chain ps).consumes = ((ps 0).consumes || (chain fun k => ps k.succ).consumes) := by
  rw [consumes, List.ofFn_succ]
  rfl

theorem consumes_choice_le {α : Type} {n : Nat} (ps : Fin n → Grammar ε χ τ α) (k : Fin n) :
    (choice ps).consumes.toNat ≤ (ps k).consumes.toNat := by
  cases all : (choice ps).consumes with
  | false => exact Nat.zero_le _
  | true =>
    have each := List.all_eq_true.mp all (ps k).consumes (List.mem_ofFn.mpr ⟨k, rfl⟩)
    exact Nat.le_of_eq (congrArg Bool.toNat each.symm)

end Grammar

-- What is known of rules where a grammar is invoked at `i`: those in `P` settle there, and all of
-- them settle further on.
structure Ready (s : Source ε) (turns : Nat) (call call' : ∀ k, Parser ε χ (τ k)) (P : ι → Prop) (i : Nat) :
    Prop where
  boundary : s.IsBoundary i
  enough : s.stop - i ≤ turns
  here : ∀ k, P k → (Coupling.settled s χ).At i i i (call k) (call' k)
  beyond : ∀ {i'}, s.IsBoundary i' → i < i' → ∀ k, (Coupling.settled s χ).At i' i' i' (call k) (call' k)

section Grammars
variable {s : Source ε} {turns : Nat} {call call' : ∀ k, Parser ε χ (τ k)} {P : ι → Prop} {i i' : Nat}

theorem Ready.later (ready : Ready s turns call call' P i) (boundary : s.IsBoundary i') (further : i < i') :
    Ready s turns call call' (fun _ => True) i' where
  boundary := boundary
  enough := Nat.le_trans (Nat.sub_le_sub_left (Nat.le_of_lt further) s.stop) ready.enough
  here k _ := ready.beyond boundary further k
  beyond boundary' beyond := ready.beyond boundary' (Nat.lt_trans further beyond)

-- Goes on where a part has stopped. Nothing is asked of what comes next unless the part has
-- stopped where it started.
theorem Ready.next {α : Type} {g : Grammar ε χ τ α} (ready : Ready s turns call call' P i)
    (boundary : s.IsBoundary i') (forward : i ≤ i') (leads : i' = i → g.LeadsTo P) :
    ∃ Q, Ready s turns call call' Q i' ∧ g.LeadsTo Q := by
  rcases Nat.eq_or_lt_of_le forward with same | further
  · cases same
    exact ⟨P, ready, leads rfl⟩
  · exact ⟨fun _ => True, ready.later boundary further, g.leadsTo_of_forall fun _ => trivial⟩

variable [DecidableEq ε] {α : Type}

def Grammar.Settling (s : Source ε) (turns : Nat) (call call' : ∀ k, Parser ε χ (τ k)) (g : Grammar ε χ τ α) :
    Prop :=
  ∀ {P : ι → Prop} {i : Nat}, Ready s turns call call' P i → g.LeadsTo P →
    (Coupling.settled s χ).At i i (i + g.consumes.toNat) ((g.rewrite (.ration turns)).parserWith call)
      (g.parserWith call')

namespace Grammar

theorem Settling.next {g : Grammar ε χ τ α} (settling : g.Settling s turns call call')
    (ready : Ready s turns call call' P i) (boundary : s.IsBoundary i') (forward : i ≤ i')
    (leads : i' = i → g.LeadsTo P) :
    (Coupling.settled s χ).At i' i' (i' + g.consumes.toNat) ((g.rewrite (.ration turns)).parserWith call)
      (g.parserWith call') := by
  obtain ⟨Q, ready, leads⟩ := ready.next boundary forward leads
  exact settling ready leads

theorem settling_outputs {n : Nat} {ps : Fin n → Grammar ε χ τ α}
    (settling : ∀ k, (ps k).Settling s turns call call') (ready : Ready s turns call call' P i)
    (leads : (chain ps).LeadsTo P) :
    (Coupling.settled s χ).Acts ((Coupling.settled s χ).Reaches (i + (chain ps).consumes.toNat))
      (Parser.outputs s (List.ofFn fun k => ((ps k).rewrite (.ration turns)).parserWith call) i)
      (Parser.outputs s (List.ofFn fun k => (ps k).parserWith call') i) := by
  induction n generalizing P i with
  | zero => exact Coupling.Acts.outputs_nil ⟨rfl, ready.boundary⟩ (Nat.le_refl i)
  | succ n ih =>
    rw [List.ofFn_succ, List.ofFn_succ]
    apply Coupling.Acts.outputs_cons (settling 0 ready (leads 0 nofun))
    intro i' j' there forward
    obtain ⟨rfl, boundary⟩ := there
    -- The others are invoked at `i` again only if the first part does not consume.
    have rest : i' = i → (chain fun k => ps k.succ).LeadsTo P := by
      intro same k quiet
      apply leads k.succ
      intro j before
      cases j using Fin.cases with
      | zero => exact consumes_eq_false_of_still (same ▸ forward)
      | succ j => exact quiet j (Fin.succ_lt_succ_iff.mp before)
    obtain ⟨Q, ready', leads'⟩ := ready.next boundary (Nat.le_trans (Nat.le_add_right i _) forward) rest
    apply (ih (fun k => settling k.succ) ready' leads').mono
    intro a b reaches
    apply reaches.weaken
    have sum : (chain ps).consumes.toNat ≤ (ps 0).consumes.toNat + (chain fun k => ps k.succ).consumes.toNat := by
      rw [consumes_chain_succ]
      exact toNat_or_le _ _
    omega

theorem settling_repeated {least most : Nat} {p : Grammar ε χ τ α} (settling : p.Settling s turns call call') :
    (repeated least most p).Settling s turns call call' := by
  intro P i ready leads
  have turn (some : 0 < most) (bounds : least ≤ most) {i' : Nat} (boundary : s.IsBoundary i') (forward : i ≤ i') :=
    settling.next ready boundary forward fun _ => leads some bounds
  refine .repeatedFor ready.boundary ready.enough turn ?_
  change i + (decide (0 < least) && p.consumes).toNat ≤ i ∨ _
  by_cases required : 0 < least
  · exact .inr ⟨required, Nat.add_le_add_left (Bool.toNat_le_toNat (Bool.and_le_right _ p.consumes)) i⟩
  · rw [decide_eq_false required]
    exact .inl (Nat.le_refl i)

-- By induction on the grammar. Parts that come later are invoked where the ones before them may have
-- stopped.
theorem settling_of_standard (g : Grammar ε χ τ α) (standard : g.Standard) :
    g.Settling s turns call call' := by
  induction g with
  | primitive p =>
    intro P i ready _
    exact .primitive (Places.fits_boundaries s (.primitive p : Grammar ε χ τ _)) ⟨rfl, ready.boundary⟩
  | map f p ih => exact fun ready leads => (ih standard.2 ready leads).map f
  | tryMap f p ih =>
    intro P i ready leads
    exact (ih standard.2 ready leads).tryMap fun _ => rfl
  | mapContext f p ih =>
    intro P i ready leads
    exact (ih standard.2 ready leads).mapContext fun v m => .done rfl
  | ranged p ih =>
    intro P i ready leads
    exact (ih standard.2 ready leads).ranged (fun here => here.1) ⟨rfl, ready.boundary⟩
  | traced tag render p ih =>
    intro P i ready leads
    exact (ih standard.2 ready leads).traced Coupling.traces_settled tag render ⟨rfl, ready.boundary⟩
  | flatMap p f ih next =>
    intro P i ready leads
    refine (ih standard.2.1 ready leads.1).flatMap ?_
    intro v i' j' there forward
    obtain ⟨rfl, boundary⟩ := there
    have second := Settling.next (next v (standard.2.2 v)) ready boundary (Nat.le_trans (Nat.le_add_right i _) forward)
      fun same => leads.2 (consumes_eq_false_of_still (same ▸ forward)) v
    exact second.weaken (Nat.le_trans forward (Nat.le_add_right i' _))
  | andThen f p q ih ih' =>
    intro P i ready leads
    refine (ih standard.2.1 ready leads.1).andThen f ?_
    intro i' j' there forward
    obtain ⟨rfl, boundary⟩ := there
    have second := Settling.next (ih' standard.2.2) ready boundary (Nat.le_trans (Nat.le_add_right i _) forward)
      fun same => leads.2 (consumes_eq_false_of_still (same ▸ forward))
    have sum : (andThen f p q).consumes.toNat ≤ p.consumes.toNat + q.consumes.toNat := toNat_or_le _ _
    exact second.weaken (by omega)
  | chain ps ih => exact fun ready leads => .chain (settling_outputs (fun k => ih k (standard.2 k)) ready leads)
  | orElse p q ih ih' =>
    intro P i ready leads
    have least := Bool.toNat_le_toNat (Bool.and_le_left p.consumes q.consumes)
    have least' := Bool.toNat_le_toNat (Bool.and_le_right p.consumes q.consumes)
    have first := (ih standard.2.1 ready leads.1).weaken (Nat.add_le_add_left least i)
    exact first.orElse ((ih' standard.2.2 ready leads.2).weaken (Nat.add_le_add_left least' i))
  | choice ps ih =>
    intro P i ready leads
    refine .choice (Coupling.forall₂_ofFn fun k => ?_) fun _ => rfl
    exact (ih k (standard.2 k) ready (leads k)).weaken (Nat.add_le_add_left (consumes_choice_le ps k) i)
  | cascade p ps ih rest =>
    intro P i ready leads
    have least := Bool.toNat_le_toNat (Bool.and_le_left p.consumes (choice ps).consumes)
    have least' := Bool.toNat_le_toNat (Bool.and_le_right p.consumes (choice ps).consumes)
    refine .cascade ((ih standard.2.1 ready leads.1).weaken (Nat.add_le_add_left least i))
      (Coupling.forall₂_ofFn fun k => ?_)
    have bound := Nat.le_trans least' (consumes_choice_le ps k)
    exact (rest k (standard.2.2 k) ready (leads.2 k)).weaken (Nat.add_le_add_left bound i)
  | opt p ih =>
    intro P i ready leads
    exact .opt ⟨rfl, ready.boundary⟩ ((ih standard.2 ready leads).weaken (Nat.le_add_right i _))
  | peek p ih =>
    intro P i ready leads
    exact (ih standard.2 ready leads).peek ⟨rfl, ready.boundary⟩
  | notAhead p ih =>
    intro P i ready leads
    exact (ih standard.2 ready leads).notAhead rfl ⟨rfl, ready.boundary⟩
  | repeated least most p ih => exact settling_repeated (ih standard.2)
  | deferred k => exact fun ready leads => ready.here k leads
  | custom parts body => exact standard.1.elim

end Grammar
end Grammars

theorem Settles.eq {s : Source ε} {i : Nat} {α : Type} {x y : Reply (Match α) × Memory χ}
    (settles : Settles ((Places.boundaries s).Spans i i i) x y) : x = y := by
  cases settles with
  | done spans => rw [spans.eq_of_stop_eq spans.stop.1]
  | failed => rfl

theorem Settles.finished {σ : Type} {alike : σ → σ → Prop} {x y : Reply σ × Memory χ} (settles : Settles alike x y) :
    (∃ a, y.1 = .done a) ∨ ∃ e, y.1 = .failed e := by
  cases settles with
  | done => exact .inl ⟨_, rfl⟩
  | failed => exact .inr ⟨_, rfl⟩

section Runs
variable [DecidableEq ε] {rules : Rules ε χ τ} {rank : ι → Nat} {top turns : Nat} {s : Source ε}

-- By induction on the depth. Rules of smaller rank have the same stretch of the source before them and
-- all others a shorter one, and either makes what bounds the depth smaller.
theorem calls_settle (standard_rules : ∀ k, (rules k).Standard) (bounded : ∀ k, rank k ≤ top)
    (guarded : rules.Guarded rank) {n depth depth' : Nat} (deep : n ≤ depth) (deep' : n ≤ depth') {i : Nat}
    (boundary : s.IsBoundary i) (enough : s.stop - i ≤ turns) (k : ι)
    (within : (s.stop - i) * (top + 1) + rank k < n) :
    (Coupling.settled s χ).At i i i ((rules.rewrite (.ration turns)).call depth k) (rules.call depth' k) := by
  induction n generalizing depth depth' i k with
  | zero => exact absurd within (Nat.not_lt_zero _)
  | succ n ih =>
    cases depth with
    | zero => exact absurd deep (Nat.not_succ_le_zero n)
    | succ depth =>
      cases depth' with
      | zero => exact absurd deep' (Nat.not_succ_le_zero n)
      | succ depth' =>
        have deep := Nat.le_of_succ_le_succ deep
        have deep' := Nat.le_of_succ_le_succ deep'
        have ready : Ready s turns ((rules.rewrite (.ration turns)).call depth) (rules.call depth')
            (fun j => rank j < rank k) i := by
          refine ⟨boundary, enough, ?_, ?_⟩
          · intro j lower
            exact ih deep deep' boundary enough j (by omega)
          · intro i' boundary' further j
            have shorter : s.stop - i' + 1 ≤ s.stop - i := by
              have inside := boundary'.le_stop
              omega
            have less := Nat.mul_le_mul_right (top + 1) shorter
            have ranked := bounded j
            rw [Nat.succ_mul] at less
            exact ih deep deep' boundary' (by omega) j (by omega)
        exact (Grammar.settling_of_standard (rules k) (standard_rules k) ready (guarded k)).weaken
          (Nat.le_add_right i _)

theorem run_settles (standard_rules : ∀ k, (rules k).Standard) (bounded : ∀ k, rank k ≤ top)
    (guarded : rules.Guarded rank) {α : Type} {g : Grammar ε χ τ α} (standard : g.Standard) {depth depth' i : Nat}
    (deep : (s.stop - i + 1) * (top + 1) ≤ depth) (deep' : (s.stop - i + 1) * (top + 1) ≤ depth')
    (boundary : s.IsBoundary i) (enough : s.stop - i ≤ turns) (m : Memory χ) :
    Settles ((Places.boundaries s).Spans i i i)
      ((g.rewrite (.ration turns)).parser (rules.rewrite (.ration turns)) depth s i m)
      (g.parser rules depth' s i m) := by
  have ready : Ready s turns ((rules.rewrite (.ration turns)).call depth) (rules.call depth') (fun _ => True) i := by
    refine ⟨boundary, enough, ?_, ?_⟩
    · intro k _
      have ranked := bounded k
      exact calls_settle standard_rules bounded guarded deep deep' boundary enough k (by rw [Nat.succ_mul]; omega)
    · intro i' boundary' further k
      have ranked := bounded k
      have less : (s.stop - i') * (top + 1) ≤ (s.stop - i) * (top + 1) :=
        Nat.mul_le_mul_right (top + 1) (by omega)
      exact calls_settle standard_rules bounded guarded deep deep' boundary' (by omega) k
        (by rw [Nat.succ_mul]; omega)
  have settled := Grammar.settling_of_standard g standard ready (g.leadsTo_of_forall fun _ => trivial)
  exact settled.weaken (Nat.le_add_right i _) m

-- Finitely many rules have a greatest rank. Any depth from the bound on gives the one answer, and no
-- repetition needs more turns for it than its matches and the source ask for.
theorem guarded_run_ends (standard_rules : ∀ k, (rules k).Standard) (bounded : ∀ k, rank k ≤ top)
    (guarded : rules.Guarded rank) {α : Type} {g : Grammar ε χ τ α} (standard : g.Standard) {i : Nat}
    (boundary : s.IsBoundary i) (m : Memory χ) :
    ∃ reply m', ((∃ a, reply = .done a) ∨ ∃ e, reply = .failed e) ∧
      ∀ depth turns, (s.stop - i + 1) * (top + 1) ≤ depth → s.stop - i ≤ turns →
        g.parser rules depth s i m = (reply, m') ∧
          (g.rewrite (.ration turns)).parser (rules.rewrite (.ration turns)) depth s i m = (reply, m') := by
  have settles {depth turns : Nat} (deep : (s.stop - i + 1) * (top + 1) ≤ depth) (enough : s.stop - i ≤ turns)
      (depth' : Nat) (deep' : (s.stop - i + 1) * (top + 1) ≤ depth') :=
    run_settles standard_rules bounded guarded standard deep deep' boundary enough m
  refine ⟨(g.parser rules ((s.stop - i + 1) * (top + 1)) s i m).1,
    (g.parser rules ((s.stop - i + 1) * (top + 1)) s i m).2,
    (settles (Nat.le_refl _) (Nat.le_refl _) _ (Nat.le_refl _)).finished, ?_⟩
  intro depth turns deep enough
  have rationed := (settles deep enough _ (Nat.le_refl _)).eq
  have same := (settles deep enough depth deep).eq
  exact ⟨same.symm.trans rationed, rationed⟩

end Runs

namespace Format.Sum

inductive Name where
  | sum
  | term

abbrev Output (_ : Name) : Type := Nat

def digit : Grammar Char Unit Output Nat := (Grammar.satisfy Char.isDigit).map fun c => c.toNat - 48

def term : Grammar Char Unit Output Nat := .orElse digit (.delimitedBy (.the '(') (.deferred .sum) (.the ')'))

def sum : Grammar Char Unit Output Nat := (Grammar.separatedBy1 (.deferred .term) (.the '+')).map (List.foldl (· + ·) 0)

def rules : Rules Char Unit Output
  | .sum => sum
  | .term => term

-- A sum starts with a term, while a term has to come to a parenthesis before it refers back.
def rank : Name → Nat
  | .sum => 1
  | .term => 0

theorem standard_sum : sum.Standard :=
  ⟨trivial, trivial, trivial, ⟨trivial, trivial⟩, trivial, trivial, ⟨trivial, trivial⟩, trivial, trivial⟩

theorem standard_term : term.Standard :=
  ⟨trivial, ⟨trivial, trivial, trivial⟩, trivial, ⟨trivial, trivial⟩, trivial, ⟨trivial, trivial⟩, trivial, trivial⟩

theorem standard_rules (k : Name) : (rules k).Standard := by
  cases k with
  | sum => exact standard_sum
  | term => exact standard_term

theorem rank_le (k : Name) : rank k ≤ 1 := by
  cases k <;> decide

theorem guarded_rules : rules.Guarded rank := by
  intro k
  cases k with
  | sum => exact ⟨Nat.zero_lt_one, fun _ _ _ => ⟨trivial, nofun⟩⟩
  | term => exact ⟨trivial, trivial, nofun⟩

end Format.Sum

theorem guarded_run_ends_nested :
    (Format.Sum.sum.parser Format.Sum.rules 16 (Source.text "é1+(2+3)") 2 (.fresh ())).1 = .done ⟨6, 2, 9⟩ ∧
      ((Format.Sum.sum.rewrite (.ration 7)).parser (Format.Sum.rules.rewrite (.ration 7)) 16
        (Source.text "é1+(2+3)") 2 (.fresh ())).1 = .done ⟨6, 2, 9⟩ := by
  have boundary : (Source.text "é1+(2+3)").IsBoundary 2 := rfl
  obtain ⟨reply, m', _, ends⟩ := guarded_run_ends Format.Sum.standard_rules Format.Sum.rank_le
    Format.Sum.guarded_rules Format.Sum.standard_sum boundary (.fresh ())
  have deep : ((Source.text "é1+(2+3)").stop - 2 + 1) * (1 + 1) ≤ 16 := by decide
  have enough : (Source.text "é1+(2+3)").stop - 2 ≤ 7 := by decide
  obtain ⟨plain, rationed⟩ := ends 16 7 deep enough
  have found : (Format.Sum.sum.parser Format.Sum.rules 16 (Source.text "é1+(2+3)") 2 (.fresh ())).1 =
      .done ⟨6, 2, 9⟩ := rfl
  refine ⟨found, ?_⟩
  rw [rationed, ← found, plain]

end Descent
