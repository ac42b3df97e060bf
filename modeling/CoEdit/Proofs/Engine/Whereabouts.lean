import CoEdit.Proofs.Engine.Life

/-!
# Everybody Is in One Place

After any history the three tables that say who is where agree: the directory, the rosters of the
sessions, and the subscriptions of the gateway.

## Main results

* `whereabouts_agree`: the agreement.
-/

namespace CoEdit.Engine

variable {config : Config} {history : History} {userId sessionId : String}

/-- Being present in a session is having an entry on its roster that is online. -/
theorem isPresent_after_iff :
    ((Engine.new config).after history).IsPresent userId sessionId ↔
      ∃ s, ((Engine.new config).after history).sessions.get? sessionId = some s ∧
        ∃ p ∈ s.roster, p.userId = userId ∧ p.isOnline = true := by
  refine exists_congr fun s => and_congr_right fun hs => ?_
  exact (sound_after hs).distinct.exists_online_iff

/-- **Directory, rosters and routing agree after every history.** A user is in a session according
to the directory exactly if they are online on its roster, and exactly if they are subscribed to it.
So nobody is online in two sessions, and there is neither a whereabouts nor a subscription for a
session that is not there. -/
theorem whereabouts_agree (config : Config) (history : History) (userId sessionId : String) :
    let e := (Engine.new config).after history
    let onRoster := fun key => ∃ s, e.sessions.get? key = some s ∧
      ∃ p ∈ s.roster, p.userId = userId ∧ p.isOnline = true
    (e.whereabouts.get? userId = some sessionId ↔ onRoster sessionId) ∧
      (onRoster sessionId ↔ userId ∈ e.gateway.subscribers sessionId) ∧
      (∀ other, onRoster sessionId → onRoster other → other = sessionId) ∧
      (e.sessions.get? sessionId = none →
        e.whereabouts.get? userId ≠ some sessionId ∧
          e.gateway.subscriptions.get? sessionId = none) := by
  intro e onRoster
  have hbalanced : e.Balanced := ((coherent_new config).after history).balanced
  have hroster : ∀ key, onRoster key ↔ e.Located userId key := fun key =>
    isPresent_after_iff.symm.trans (hbalanced.present_iff userId key)
  refine ⟨(hroster sessionId).symm, ?_, fun other h₁ h₂ => ?_, fun hnone => ⟨?_, ?_⟩⟩
  · rw [hroster, Gateway.mem_subscribers_iff, hbalanced.subscribed_iff]
  · exact Balanced.located_unique ((hroster other).mp h₂) ((hroster sessionId).mp h₁)
  · exact hbalanced.not_seated_of_none hnone
  · refine hbalanced.noneEmpty.get?_eq_none fun user huser => ?_
    exact hbalanced.not_seated_of_none hnone ((hbalanced.subscribed_iff user sessionId).mp huser)

end CoEdit.Engine
