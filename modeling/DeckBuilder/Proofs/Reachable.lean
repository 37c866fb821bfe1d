import DeckBuilder.Proofs.CatalogSeated
import DeckBuilder.Proofs.CatalogTurns
import DeckBuilder.Proofs.TurnConduct

/-!
The games that come from an opening with the catalog, whoever answers: by single changes in any
order, and by turns and games that are played to their end or given up. All of them are games of the
catalog with the cards of the opening, and a turn or a game that is given up from one of them is given
up over sixteen refusals in a row.
-/
namespace DeckBuilder

open Engine

variable {M : Type} [Controllers M]

/-- Nothing is supposed of the controllers. -/
def Contract.any (M : Type) [Controllers M] : Contract M where
  keeps _ := True
  halts r g' := g'.state.OfCatalog ∧
    ∃ id q g₀, Refused id q attempts g₀ g' ∧ r = keptAnswering id q
  asked _ _ _ _ _ := trivial
  told _ _ _ _ := trivial
  exhausted g _ id q _ _ hstate _ h := ⟨hstate, id, q, g, h, rfl⟩

inductive Game.Reachable (s₀ : GameState) : Game M → Prop
  | opening (memory : M) : Reachable s₀ ⟨s₀, memory⟩
  | change {g : Game M} {s : GameState} (memory : M) (before : Reachable s₀ g)
      (h : Change Hooks.catalog g.state s) : Reachable s₀ ⟨s, memory⟩
  | turn {g : Game M} (maxTurns elapsed : Nat) (before : Reachable s₀ g) :
      Reachable s₀ ((playTurn maxTurns elapsed).runOn g).2
  | game {g : Game M} (maxTurns : Nat) (before : Reachable s₀ g) :
      Reachable s₀ ((playGame maxTurns).runOn g).2

theorem Effect.seatedAll_of_plain {n : Nat} {effects : List Effect}
    (h : ∀ e ∈ effects, e.Plain) : Effect.SeatedAll n effects := by
  induction effects with
  | nil => trivial
  | cons e rest ih =>
    refine ⟨?_, ih fun e he => h e (List.mem_cons_of_mem _ he)⟩
    have hplain := h e List.mem_cons_self
    cases e <;> trivial

open Script.Seated in
/-- What the catalog hangs on cards and players acts for players at the table only. -/
theorem Hooks.seated_of_catalog {n : Nat} {s : GameState} (h : Hooks.catalog.Allow s) :
    (Hooks.seated n).Allow s where
  players := by
    intro p hp
    constructor
    · intro t ht info _
      obtain ⟨source, rfl⟩ := (h.players p hp).gain t ht
      exact once (Catalog.offerTopdeck_seated _ _ _)
    · intro t ht id card _
      obtain rfl := (h.players p hp).play t ht
      refine keeping (look.bind fun o _ => ite (fun _ => ?_) fun _ => pure trivial)
      exact callBind trivial fun _ => pure trivial
  cards := by
    intro id c hc t ht ctx hctx
    rcases h.cards id c hc t ht with rfl | ⟨effects, hplain, rfl⟩
    · exact once (callBind trivial fun _ => callBind trivial fun _ => pure trivial)
    · exact once (steps (Effect.seatedAll_of_plain hplain) hctx)

theorem GameState.OfCatalog.seated {s : GameState} (h : s.OfCatalog) : s.Seated s.players.length :=
  ⟨rfl, h.sound, Hooks.seated_of_catalog h.hooks,
    fun id c hc => Registry.allCards_seated _ (h.registered id c hc)⟩

theorem Contract.fit_any {g : Game M} (h : g.state.OfCatalog) : (Contract.any M).Fit g :=
  ⟨h, trivial⟩

namespace Game.Reachable

variable {s₀ : GameState} {g : Game M}

/-- A computation that makes changes only, and gives a game of the catalog whatever becomes of it. -/
theorem runOn_kept {α : Type} {e : Engine M α} {Q : α → Prop} (h : g.state.OfCatalog)
    (hacts : Acts g.state.players.length e Q)
    (hends : Ensures e g (fun _ => (Contract.any M).Onward g) (Contract.any M).halts) :
    (e.runOn g).2.state.OfCatalog ∧ Kept g.state (e.runOn g).2.state := by
  have hboth := (hacts g.state h.seated g .refl).and hends
  refine Ensures.after (P := fun g' => g'.state.OfCatalog ∧ Kept g.state g'.state)
    (hboth.mono ?_ ?_)
  · intro a g' h'
    exact ⟨h'.2.state.ofCatalog h, Changes.kept h'.1.1⟩
  · intro r g' h'
    exact ⟨h'.2.1, Changes.kept h'.1⟩

/-- A reachable game is one of the catalog, with the cards and seats of the opening. -/
theorem ofCatalog (h₀ : s₀.OfCatalog) (hg : Reachable s₀ g) :
    g.state.OfCatalog ∧ Kept s₀ g.state := by
  induction hg with
  | opening memory => exact ⟨h₀, .refl s₀⟩
  | change memory before h ih =>
    have hchange := Changes.single h
    exact ⟨hchange.ofCatalog ih.1, ih.2.trans hchange.kept⟩
  | @turn g maxTurns elapsed before ih =>
    have hends := (Catalog.playTurn_ends maxTurns elapsed (Contract.fit_any ih.1)).imp
      fun _ _ h => h.1
    have hrun := runOn_kept ih.1 (playTurn_acts maxTurns elapsed) hends
    exact ⟨hrun.1, ih.2.trans hrun.2⟩
  | @game g maxTurns before ih =>
    have hrun := runOn_kept ih.1 (playOn_acts maxTurns _ _)
      (Catalog.playGame_ends maxTurns (Contract.fit_any ih.1))
    exact ⟨hrun.1, ih.2.trans hrun.2⟩

/-- It comes from the opening by changes. -/
theorem changes (h₀ : s₀.OfCatalog) (hg : Reachable s₀ g) : Changes Hooks.any s₀ g.state := by
  -- what a turn or a game does are changes, whatever becomes of it
  have hruns {α : Type} {e : Engine M α} {Q : α → Prop} {g : Game M} (hg : Reachable s₀ g)
      (hacts : Acts g.state.players.length e Q) :
      Changes Hooks.any g.state (e.runOn g).2.state := by
    have hseated := (hg.ofCatalog h₀).1.seated
    exact ((hacts g.state hseated g .refl).mono (fun _ _ h => Changes.any h.1)
      fun _ _ h => Changes.any h).after (P := fun g' => Changes Hooks.any g.state g'.state)
  induction hg with
  | opening memory => exact .refl
  | change memory before h ih => exact ih.tail h.any
  | turn maxTurns elapsed before ih => exact ih.trans (hruns before (playTurn_acts maxTurns elapsed))
  | game maxTurns before ih => exact ih.trans (hruns before (playOn_acts maxTurns _ _))

end Game.Reachable

end DeckBuilder
