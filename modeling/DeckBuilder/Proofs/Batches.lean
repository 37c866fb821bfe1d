import DeckBuilder.Proofs.Results
import DeckBuilder.Proofs.Telling
import Mathlib.Data.Nat.ModEq
import Mathlib.Data.Nat.Prime.Basic

/-!
What the report of a batch adds up to. Each game is counted once, as failed, won alone or tied. The
report passes over a game that nobody has won and over a winner who has no seat, so that nothing is
lost rests on the games: whatever is printed on the cards, somebody wins, and nobody leaves the table
or takes another's number. The counters are sums, which do not depend on the order of the games. That no
game is counted under two numbers rests on the seeds: their factor is odd, so that it can be cancelled
modulo a power of two.
-/
namespace DeckBuilder

/-! ### Who can win -/

namespace Engine

variable {M : Type} [Controllers M]

/-- Everybody at the table keeps his number. -/
theorem lasting_ids (ids : List PlayerId) :
    Lasting fun g : Game M => g.state.players.map (·.id) = ids :=
  .ofState (fun h htouch => htouch.touched.ids.trans h) (fun h hpassage => hpassage.ids.1.trans h)
    fun _ _ h => h

end Engine

theorem GameState.Sound.seated {s : GameState} (h : s.Sound) :
    ∀ id ∈ s.players.map (·.id), id.seat < s.players.length := by
  intro id hid
  obtain ⟨p, hp, rfl⟩ := List.mem_map.mp hid
  obtain ⟨seat, hseat⟩ := List.mem_iff_getElem?.mp hp
  rw [h.seats ⟨seat⟩ p hseat]
  exact (List.getElem?_eq_some_iff.mp hseat).1

/-- Somebody has won, and only players with a seat have. -/
structure GameResult.WonAt (result : GameResult) (seats : Nat) : Prop where
  won : result.winners ≠ []
  seated : ∀ winner ∈ result.winners, winner.seat < seats

namespace GameResult.Settles

variable {result : GameResult} {s : GameState}

theorem players (h : result.Settles s) :
    result.standings.map (·.player) = s.players.map (·.id) := by
  have hsame : List.Forall₂ (· = ·) (s.players.map (·.id)) (result.standings.map (·.player)) := by
    rw [List.forall₂_map_left_iff, List.forall₂_map_right_iff]
    exact h.standings.imp fun _ _ hstands => hstands.player.symm
  rw [List.forall₂_eq_eq_eq] at hsame
  exact hsame.symm

theorem wonAt {seats : Nat} (h : result.Settles s) (hplayers : s.players ≠ [])
    (hseats : ∀ id ∈ s.players.map (·.id), id.seat < seats) : result.WonAt seats := by
  have hnames := h.players
  constructor
  · rw [h.winners, ← determineWinners_eq]
    refine determineWinners_ne_nil fun hnil => hplayers ?_
    rw [hnil] at hnames
    exact List.map_eq_nil_iff.mp hnames.symm
  · intro winner hwinner
    rw [h.winners] at hwinner
    obtain ⟨a, ha, rfl⟩ := List.mem_map.mp hwinner
    refine hseats a.player ?_
    rw [← hnames]
    exact List.mem_map_of_mem (List.mem_of_mem_filter ha)

end GameResult.Settles

namespace Engine

/-- In a game that is played to its end somebody of its table wins. -/
theorem playGame_wonAt {M : Type} [Controllers M] {g g' : Game M} {result : GameResult}
    {maxTurns : Nat} (h : (playGame maxTurns).runOn g = (.ok result, g')) (hsound : g.state.Sound) :
    result.WonAt g.state.players.length := by
  have hsettles := playGame_settles (g := g) maxTurns
  rw [Ensures, h] at hsettles
  obtain ⟨last, hlast, hsettles⟩ := hsettles
  have hids : last.state.players.map (·.id) = g.state.players.map (·.id) := by
    have hafter := (Upholds.turnTimes (lasting_ids _) result.turns).after (g := g) rfl
    rw [hlast] at hafter
    exact hafter
  refine hsettles.wonAt ?_ ?_
  · rw [← List.length_pos_iff, GameState.length_players_of_ids hids]
    exact Nat.zero_lt_of_lt hsound.active
  · rw [hids]
    exact hsound.seated

end Engine

namespace Simulation

open Engine

/-- A game of a batch that does not fail has a winner, and its winners sit at the table. -/
theorem runOne_wonAt {r : Registry} {c : Config} {index : Nat} {result : GameResult}
    (h : runOne r c index = .ok result) : result.WonAt c.seats.length := by
  cases hinit : initGame r (c.gameConfig index) with
  | error e =>
    rw [runOne, hinit] at h
    cases h
  | ok s₀ =>
    have hopened := initGame_opened hinit
    have hseats : s₀.players.length = c.seats.length := by
      rw [hopened.seats, Config.gameConfig, List.length_map, List.length_range]
    rw [runOne_eq hinit] at h
    rw [← hseats]
    exact playGame_wonAt (Prod.ext h rfl) hopened.sound

/-! ### Counting -/

theorem modify_succ_comm (l : List Nat) (i j : Nat) :
    (l.modify i (· + 1)).modify j (· + 1) = (l.modify j (· + 1)).modify i (· + 1) := by
  by_cases hij : i = j
  · rw [hij]
  · exact List.modify_modify_ne _ _ l hij

/-- The results of the games that did not fail. -/
def finished (counted : List (Except Halt GameResult)) : List GameResult :=
  counted.filterMap Except.toOption

@[simp] theorem finished_append_error (counted : List (Except Halt GameResult)) (e : Halt) :
    finished (counted ++ [.error e]) = finished counted :=
  (List.filterMap_append ..).trans (List.append_nil _)

@[simp] theorem finished_append_ok (counted : List (Except Halt GameResult))
    (result : GameResult) : finished (counted ++ [.ok result]) = finished counted ++ [result] :=
  List.filterMap_append ..

namespace Report

/-- The wins after a game with these winners. -/
def credit (wins : List Nat) : List PlayerId → List Nat
  | [winner] => wins.modify winner.seat (· + 1)
  | _ => wins

theorem recordResult_eq (b : Report) (result : GameResult) :
    b.recordResult result =
      { b with
        wins := credit b.wins result.winners
        ties := b.ties + (if 1 < result.winners.length then 1 else 0)
        turnLimitHits := b.turnLimitHits + (if result.reason = .turnLimit then 1 else 0)
        totalTurns := b.totalTurns + result.turns } := by
  obtain ⟨winners, standings, turns, reason⟩ := result
  match winners with
  | [] | [_] | _ :: _ :: _ => simp [recordResult, credit]

theorem credit_comm (wins : List Nat) (winners winners' : List PlayerId) :
    credit (credit wins winners) winners' = credit (credit wins winners') winners := by
  unfold credit
  split <;> split <;> first | rfl | exact modify_succ_comm _ _ _

theorem length_credit (wins : List Nat) (winners : List PlayerId) :
    (credit wins winners).length = wins.length := by
  unfold credit
  split
  · exact List.length_modify _ _ _
  · rfl

/-- A game counts for a seat if the seat has won it alone. -/
theorem getElem?_credit (wins : List Nat) (winners : List PlayerId) (seat : Nat) :
    (credit wins winners)[seat]? =
      wins[seat]?.map (· + if winners = [⟨seat⟩] then 1 else 0) := by
  match winners with
  | [] | _ :: _ :: _ => simp [credit]
  | [winner] =>
    rw [credit, List.getElem?_modify]
    by_cases hseat : winner.seat = seat
    · subst hseat
      simp
    · have hne : winner ≠ ⟨seat⟩ := fun h => hseat (congrArg PlayerId.seat h)
      simp [hseat, hne]

/-- A game that was won is added either to the wins or to the ties. -/
theorem sum_credit {wins : List Nat} {result : GameResult} (h : result.WonAt wins.length) :
    (credit wins result.winners).sum + (if 1 < result.winners.length then 1 else 0) =
      wins.sum + 1 := by
  obtain ⟨hwon, hseated⟩ := h
  match hwinners : result.winners with
  | [] => exact absurd hwinners hwon
  | [winner] =>
    rw [hwinners] at hseated
    exact sum_modify_succ (hseated winner (List.mem_singleton_self winner))
  | _ :: _ :: _ => simp [credit]

/-- It makes no difference which of two games is counted first. -/
theorem record_comm (b : Report) (x y : Except Halt GameResult) :
    (b.record x).record y = (b.record y).record x := by
  cases x with
  | error e =>
    cases y with
    | error e' => rfl
    | ok result' => simp only [record, recordResult_eq]
  | ok result =>
    cases y with
    | error e' => simp only [record, recordResult_eq]
    | ok result' =>
      simp only [record, recordResult_eq, credit_comm _ result.winners, Nat.add_right_comm]

theorem ofResults_perm (c : Config) {results results' : List (Except Halt GameResult)}
    (h : results.Perm results') : ofResults c results = ofResults c results' :=
  h.foldl_eq' (fun x _ y _ b => record_comm b x y) _

/-- What the counters say when these games have been counted. -/
structure Accounts (b : Report) (c : Config) (counted : List (Except Halt GameResult)) : Prop where
  games : b.games = c.games
  seats : b.wins.length = c.seats.length
  failed : b.failed + (finished counted).length = counted.length
  outcomes : b.wins.sum + b.ties = (finished counted).length
  wins : ∀ seat < c.seats.length, b.winsOf seat = (finished counted).countP (·.winners = [⟨seat⟩])
  ties : b.ties = (finished counted).countP (1 < ·.winners.length)
  limit : b.turnLimitHits = (finished counted).countP (·.reason = .turnLimit)
  turns : b.totalTurns = ((finished counted).map (·.turns)).sum

theorem empty_accounts (c : Config) : (empty c).Accounts c [] where
  games := rfl
  seats := List.length_replicate
  failed := rfl
  outcomes := by simp [empty, finished]
  wins seat hseat := by simp [empty, finished, winsOf, hseat]
  ties := rfl
  limit := rfl
  turns := rfl

namespace Accounts

variable {b : Report} {c : Config} {counted : List (Except Halt GameResult)}

theorem record_error (h : b.Accounts c counted) (e : Halt) :
    (b.record (.error e)).Accounts c (counted ++ [.error e]) := by
  obtain ⟨hgames, hseats, hfailed, houtcomes, hwins, hties, hlimit, hturns⟩ := h
  refine ⟨hgames, hseats, ?_, ?_, ?_, ?_, ?_, ?_⟩ <;> rw [finished_append_error]
  · rw [List.length_append, ← hfailed]
    exact Nat.add_right_comm _ _ _
  · exact houtcomes
  · exact hwins
  · exact hties
  · exact hlimit
  · exact hturns

theorem record_ok (h : b.Accounts c counted) {result : GameResult}
    (hwon : result.WonAt c.seats.length) :
    (b.record (.ok result)).Accounts c (counted ++ [.ok result]) := by
  obtain ⟨hgames, hseats, hfailed, houtcomes, hwins, hties, hlimit, hturns⟩ := h
  rw [← hseats] at hwon
  have hcredit := sum_credit hwon
  rw [Report.record, recordResult_eq]
  refine ⟨hgames, (length_credit _ _).trans hseats, ?_, ?_, ?_, ?_, ?_, ?_⟩ <;>
    rw [finished_append_ok]
  · rw [List.length_append, List.length_append, ← hfailed]
    exact (Nat.add_assoc _ _ _).symm
  · rw [List.length_append, ← houtcomes]
    dsimp only [List.length_singleton]
    omega
  · intro seat hseat
    have hget : b.wins[seat]? = some b.wins[seat] := List.getElem?_eq_getElem (hseats.symm ▸ hseat)
    rw [List.countP_append, ← hwins seat hseat]
    simp [winsOf, getElem?_credit, hget, List.countP_singleton]
  · rw [List.countP_append, ← hties]
    simp [List.countP_singleton]
  · rw [List.countP_append, ← hlimit]
    simp [List.countP_singleton]
  · rw [List.map_append, List.sum_append, ← hturns]
    rfl

theorem foldl (h : b.Accounts c counted) {rest : List (Except Halt GameResult)}
    (hrest : ∀ result, .ok result ∈ rest → result.WonAt c.seats.length) :
    (rest.foldl Report.record b).Accounts c (counted ++ rest) := by
  induction rest generalizing b counted with
  | nil =>
    rw [List.append_nil]
    exact h
  | cons x rest ih =>
    have hlater : ∀ result, .ok result ∈ rest → result.WonAt c.seats.length :=
      fun result hresult => hrest result (List.mem_cons_of_mem x hresult)
    rw [List.append_cons]
    cases x with
    | error e => exact ih (h.record_error e) hlater
    | ok result => exact ih (h.record_ok (hrest result List.mem_cons_self)) hlater

end Accounts

end Report

theorem report_accounts (r : Registry) (c : Config) : (report r c).Accounts c (results r c) := by
  have hwon : ∀ result, .ok result ∈ results r c → result.WonAt c.seats.length := by
    intro result hresult
    obtain ⟨index, -, hrun⟩ := List.mem_map.mp hresult
    exact runOne_wonAt hrun
  exact (Report.empty_accounts c).foldl hwon

/-- A batch accounts for all its games, whatever the registry and whatever happens in them: each has
failed, was won alone by a seat of the table, or was tied. Every counter is the number of the games
that it stands for, and the turns are added up, over the games that did not fail; so no more of them
stopped at the limit than there are, and the order in which they are counted makes no difference to
the report. -/
theorem batch_accounts (r : Registry) (c : Config) :
    let b := report r c
    let games := finished (results r c)
    b.games = c.games ∧ b.games = b.failed + b.wins.sum + b.ties ∧
      b.games = b.failed + games.length ∧
      b.wins.length = c.seats.length ∧
      (∀ seat < c.seats.length, b.winsOf seat = games.countP (·.winners = [⟨seat⟩])) ∧
      b.ties = games.countP (1 < ·.winners.length) ∧
      b.turnLimitHits = games.countP (·.reason = .turnLimit) ∧
      b.turnLimitHits ≤ b.games - b.failed ∧
      b.totalTurns = (games.map (·.turns)).sum ∧
      ∀ reordered, reordered.Perm (results r c) → Report.ofResults c reordered = b := by
  intro b games
  have h : b.Accounts c (results r c) := report_accounts r c
  have hcount : b.games = b.failed + games.length := by
    rw [h.failed, h.games, results, List.length_map, List.length_range]
  have hlimit : b.turnLimitHits ≤ games.length := by
    rw [h.limit]
    exact List.countP_le_length
  refine ⟨h.games, ?_, hcount, h.seats, h.wins, h.ties, h.limit, ?_, h.turns, ?_⟩
  · rw [Nat.add_assoc, h.outcomes]
    exact hcount
  · rw [hcount, Nat.add_sub_cancel_left]
    exact hlimit
  · exact fun reordered hperm => Report.ofResults_perm c hperm

/-- Three games between a player at random and one by values, counted from the last to the first. -/
theorem batch_accounts_reversed :
    let c : Config := { seats := [.random, .heuristic], games := 3 }
    let b := Report.ofResults c (results Registry.catalog c).reverse
    b = report Registry.catalog c ∧ 3 = b.failed + b.wins.sum + b.ties := by
  intro c b
  obtain ⟨hgames, houtcomes, -, -, -, -, -, -, -, hreordered⟩ := batch_accounts Registry.catalog c
  have hb : b = report Registry.catalog c := hreordered _ (List.reverse_perm _)
  refine ⟨hb, ?_⟩
  rw [hb, ← houtcomes, hgames]

/-! ### Seeds -/

/-- An odd factor can be cancelled, since it is coprime to the number of words. -/
theorem eq_of_mul_odd {a x y : UInt64} (ha : Odd a.toNat) (h : x * a = y * a) : x = y := by
  have hproducts : x.toNat * a.toNat ≡ y.toNat * a.toNat [MOD 2 ^ 64] := by
    rw [Nat.ModEq, ← UInt64.toNat_mul, ← UInt64.toNat_mul, h]
  have hcoprime : (2 ^ 64).Coprime a.toNat := (Nat.coprime_two_left.mpr ha).pow_left 64
  have hwords : x.toNat ≡ y.toNat [MOD 2 ^ 64] := hproducts.cancel_right_of_coprime hcoprime
  exact UInt64.toNat_inj.mp (hwords.eq_of_lt_of_lt x.toNat_lt y.toNat_lt)

/-- Two games have the same seed if and only if their numbers are the same word. -/
theorem Config.gameSeed_eq_iff (c : Config) {i j : Nat} :
    c.gameSeed i = c.gameSeed j ↔ i ≡ j [MOD 2 ^ 64] := by
  rw [Nat.ModEq, ← UInt64.toNat_ofNat', ← UInt64.toNat_ofNat', UInt64.toNat_inj]
  constructor
  · intro h
    have hproducts := (UInt64.add_right_inj c.seed).mp h
    exact eq_of_mul_odd (by decide) hproducts
  · intro h
    rw [Config.gameSeed, Config.gameSeed, h]

/-- No two games of a batch share a seed, whatever the seed of the batch. This holds for all numbers of
games that are words, and so the seeds with which the games of a batch are set up are all different. -/
theorem games_share_no_seed (c : Config) :
    (∀ i < 2 ^ 64, ∀ j < 2 ^ 64, c.gameSeed i = c.gameSeed j ↔ i = j) ∧
      (c.games ≤ 2 ^ 64 →
        ((List.range c.games).map fun index => (c.gameConfig index).seed).Nodup) := by
  have hwords : ∀ i < 2 ^ 64, ∀ j < 2 ^ 64, c.gameSeed i = c.gameSeed j ↔ i = j := by
    intro i hi j hj
    rw [c.gameSeed_eq_iff]
    exact ⟨fun h => h.eq_of_lt_of_lt hi hj, fun h => h ▸ Nat.ModEq.refl i⟩
  refine ⟨hwords, fun hgames => List.nodup_range.map_on fun i hi j hj hseeds => ?_⟩
  have hi := (List.mem_range.mp hi).trans_le hgames
  have hj := (List.mem_range.mp hj).trans_le hgames
  exact (hwords i hi j hj).mp hseeds

/-- The first and the last game of the longest batch, where the seed of the batch is the last word. -/
theorem games_share_no_seed_in_longest :
    let c : Config := { seats := [.random, .heuristic], games := 2 ^ 64, seed := 0xFFFFFFFFFFFFFFFF }
    c.gameSeed 0 ≠ c.gameSeed (2 ^ 64 - 1) ∧
      ((List.range c.games).map fun index => (c.gameConfig index).seed).Nodup := by
  intro c
  obtain ⟨hwords, hgames⟩ := games_share_no_seed c
  have hdiffer : ¬ 0 = 2 ^ 64 - 1 := by decide
  refine ⟨?_, hgames (Nat.le_refl _)⟩
  exact mt (hwords 0 (by decide) (2 ^ 64 - 1) (by decide)).mp hdiffer

end Simulation

end DeckBuilder
