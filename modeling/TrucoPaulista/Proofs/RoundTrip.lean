import TrucoPaulista.Proofs.StoredJson

namespace TrucoPaulista

namespace Match

theorem reachable_of_ofJson {json : Json} {m : Match} (accepted : Match.ofJson json = .ok m) :
    m.Reachable := by
  unfold Match.ofJson at accepted
  split at accepted
  next stored _ => exact .restored accepted
  next => contradiction

theorem Sound.ofJson_toJson {m : Match} (sound : m.Sound) : Match.ofJson m.toJson = .ok m := by
  unfold Match.ofJson toJson
  rw [MatchSnapshot.ofJson?_toJson]
  exact sound.restore_snapshot

/-- Whatever was done in a match, and however far its hand is, the match is restored from its stored
form and from the JSON of it. A JSON value that is accepted stands for such a match. -/
theorem restored_from_stored_form :
    (∀ m : Match, m.Reachable →
      m.snapshot.restore = .ok m ∧ Match.ofJson m.toJson = .ok m) ∧
    (∀ (json : Json) (m : Match), Match.ofJson json = .ok m →
      m.Reachable ∧ Match.ofJson m.toJson = .ok m) := by
  constructor
  · intro m reachable
    exact ⟨reachable.sound.restore_snapshot, reachable.sound.ofJson_toJson⟩
  · intro json m accepted
    have reachable := reachable_of_ofJson accepted
    exact ⟨reachable, reachable.sound.ofJson_toJson⟩

/-- A match in its second round, which side B began, after a card that was refused. -/
def halfPlayed : Match :=
  let begun := (standard.start .four).2
  let first := ((begun.play .a ⟨.three, .clubs⟩).2.play .b ⟨.six, .diamonds⟩).2
  ((first.play .b ⟨.king, .hearts⟩).2.play .b ⟨.ace, .hearts⟩).2

/-- The JSON of a match whose rounds are listed as arrays. -/
def listedJson : Json :=
  .arr [.int 1, .str "in_progress", .int 12, .arr [.int 3, .int 11],
    .obj [("rounds", .arr [.arr [.arr [.null, .str " qd"]]]), ("vira", .str "k"),
      ("finished", .bool true)]]

/-- A match that awaits side A is restored as it is. One that is read from arrays is written as objects,
and then read as the same. -/
theorem restored_from_stored_form_half_played :
    (halfPlayed.hand.bind Hand.awaiting = some .a ∧ halfPlayed.snapshot.restore = .ok halfPlayed ∧
      Match.ofJson halfPlayed.toJson = .ok halfPlayed) ∧
    (∃ m, Match.ofJson listedJson = .ok m ∧ m.toJson ≠ listedJson ∧
      Match.ofJson m.toJson = .ok m) := by
  constructor
  · have reachable : halfPlayed.Reachable :=
      .played (.played (.played (.played (.started .standard _) _ _) _ _) _ _) _ _
    exact ⟨by decide, restored_from_stored_form.1 _ reachable⟩
  · have accepted : Match.ofJson listedJson =
        .ok ⟨12, .inProgress, ⟨3, 11⟩, some ⟨.king, [], ⟨.king, none, some ⟨.queen, .diamonds⟩⟩, false⟩⟩ := by
      rfl
    exact ⟨_, accepted, Json.noConfusion, (restored_from_stored_form.2 _ _ accepted).2⟩

end Match

end TrucoPaulista
