import Hysteron.Safety.Followers
import Hysteron.Safety.SlotReconcile
import Hysteron.Sentinel.Lemmas.GoodStandbys

/-!
The grace period of the replication slots of former members. The sentinel records in the status of the
master since when a slot is an orphan, and the keeper of the master drops the slot only once the time
for which it is retained has elapsed. A slot that is not recorded is dropped at once, so that every
follower that goes must be recorded by the very update that removes it from the followers.
-/

namespace Hysteron
namespace ClusterData

variable {cd cd' : ClusterData} {uid : String}

def orphans (cd : ClusterData) (uid : String) : FinMap String Time :=
  ((cd.dbs[uid]?).bind (fun db => db.status.orphanMemberSlots)).getD ∅

def followerSlots (cd : ClusterData) (uid : String) : List String :=
  (cd.followers uid).map Keeper.hysteronName

def memberSlotTTL (cd : ClusterData) : Duration :=
  cd.cluster.defSpec.memberReplicationSlotTTL.getD 0

theorem followers_roundTrip : cd.roundTrip.followers uid = cd.followers uid := by
  rw [followers, roundTrip, Std.ExtTreeMap.getElem?_map, Option.map_map]
  rfl

theorem orphans_roundTrip : cd.roundTrip.orphans uid = cd.orphans uid := by
  rw [orphans, roundTrip, Std.ExtTreeMap.getElem?_map]
  cases hdb : cd.dbs[uid]? with
  | none => simp [orphans, hdb]
  | some db =>
    rw [orphans, hdb]
    exact FinMap.getD_omitEmpty db.status.orphanMemberSlots

def OrphansUnused (cd : ClusterData) : Prop :=
  cd.cluster.status.master ≠ "" →
    ∀ slot ∈ cd.followerSlots cd.cluster.status.master,
      (cd.orphans cd.cluster.status.master)[slot]? = none

def TracksOrphans (now : Time) (uid : String) (cd cd' : ClusterData) : Prop :=
  ∀ (slot : String),
    (cd'.orphans uid)[slot]?
      =
    if slot ∈ cd'.followerSlots uid then
      none
    else
      ((cd.orphans uid)[slot]?).or (if slot ∈ cd.followerSlots uid then some now else none)

end ClusterData

namespace Sentinel

variable {env : Env} {s s' : Sentinel} {cd newcd newcd' : ClusterData} {pis : ProxiesInfo}
variable {now : Time} {uid : String}

section Compute

theorem getElem?_computeOrphanMemberSlots (prevFollowers currentFollowers : List String)
    (prevOrphans : Option (FinMap String Time)) (slot : String)
    : ((computeOrphanMemberSlots prevFollowers currentFollowers prevOrphans false now).getD ∅)[slot]?
        =
      if slot ∈ currentFollowers.map hysteronName then
        none
      else
        ((prevOrphans.getD ∅)[slot]?).or
          (if slot ∈ prevFollowers.map hysteronName then some now else none) := by
  have hkeep (out : FinMap String Time) : (if out = ∅ then none else some out).getD ∅ = out := by
    split
    . next hempty => exact hempty.symm
    . rfl
  unfold computeOrphanMemberSlots
  dsimp only
  rw [if_neg Bool.false_ne_true, hkeep, FinMap.getElem?_foldl_insertIfNew,
    Std.ExtTreeMap.getElem?_filter']
  by_cases hcurrent : slot ∈ currentFollowers.map hysteronName
  . rw [if_pos hcurrent, List.contains_iff_mem.mpr hcurrent]
    simp
  . have hfree : (currentFollowers.map hysteronName).contains slot = false := by simpa using hcurrent
    rw [if_neg hcurrent, hfree]
    cases (prevOrphans.getD ∅)[slot]? <;> simp

end Compute

section Finish

theorem followers_finishUpdate (h : finishUpdate now cd newcd = .ok newcd') (uid : String)
    : newcd'.followers uid = newcd.followers uid := by
  obtain ⟨orphans, hdbs⟩ := (finishUpdate_finished h).getElem?_dbs uid
  rw [ClusterData.followers, hdbs, Option.map_map, ClusterData.followers]
  congr 2
  funext db
  exact congrArg Slice.elems (followers_dbSpecFromClusterSpec _ _ _)

theorem orphans_bumpGenerations (cd newcd : ClusterData) (uid : String)
    : (bumpGenerations cd newcd).orphans uid = newcd.orphans uid := by
  rw [ClusterData.orphans, bumpGenerations, Std.ExtTreeMap.getElem?_map, ClusterData.orphans]
  cases newcd.dbs[uid]? with
  | none => rfl
  | some db =>
    simp only [Option.map_some, Option.bind_some]
    split
    . rfl
    . split <;> rfl

theorem orphans_finishUpdate {masterDB : DB} (h : finishUpdate now cd newcd = .ok newcd')
    (hne : newcd.cluster.status.master ≠ "")
    (hdb : newcd.dbs[newcd.cluster.status.master]? = some masterDB)
    : newcd'.orphans newcd.cluster.status.master
        =
      if 0 < newcd.memberSlotTTL then
        (computeOrphanMemberSlots (cd.followers newcd.cluster.status.master)
          (newcd.followers newcd.cluster.status.master) masterDB.status.orphanMemberSlots
          (cd.cluster.status.master ≠ ""
            && cd.cluster.status.master ≠ newcd.cluster.status.master) now).getD ∅
      else
        ∅ := by
  simp only [finishUpdate, setDBSpecFromClusterSpec, Except.bind_eq_ok_iff, Except.pure_eq_ok,
    Except.ok.injEq] at h
  obtain ⟨mid, hmid, rfl⟩ := h
  split at hmid
  . cases hmid
  . cases hmid
    rw [orphans_bumpGenerations, updateOrphanMemberSlots]
    dsimp only
    rw [if_neg hne, ClusterData.orphans, Std.ExtTreeMap.getElem?_modify_self,
      Std.ExtTreeMap.getElem?_map, hdb]
    simp only [Option.map_some, Option.bind_some]
    have httl : newcd.cluster.defSpec.memberReplicationSlotTTL.any (fun ttl => ttl > 0) = true
        ↔ 0 < newcd.memberSlotTTL := by
      unfold ClusterData.memberSlotTTL
      cases newcd.cluster.defSpec.memberReplicationSlotTTL <;> simp
    have hcurrent : newcd.followers newcd.cluster.status.master = masterDB.spec.followers.elems := by
      rw [ClusterData.followers, hdb]
      rfl
    rw [followers_dbSpecFromClusterSpec, hcurrent, ClusterData.followers]
    by_cases henabled : 0 < newcd.memberSlotTTL
    . rw [if_pos (httl.mpr henabled), if_pos henabled]
      cases cd.dbs[newcd.cluster.status.master]? <;> rfl
    . rw [if_neg (mt httl.mp henabled), if_neg henabled]
      rfl

theorem orphansUnused_finishUpdate (h : finishUpdate now cd newcd = .ok newcd')
    : newcd'.OrphansUnused := by
  intro hne slot hslot
  rw [ClusterData.followerSlots, followers_finishUpdate h] at hslot
  rw [finishUpdate_cluster h] at hne hslot ⊢
  cases hdb : newcd.dbs[newcd.cluster.status.master]? with
  | none => simp [ClusterData.followers, hdb] at hslot
  | some masterDB =>
    rw [orphans_finishUpdate h hne hdb]
    split
    . generalize (decide (cd.cluster.status.master ≠ "")
        && decide (cd.cluster.status.master ≠ newcd.cluster.status.master)) = masterChanged
      cases masterChanged with
      | true => simp [computeOrphanMemberSlots]
      | false =>
        rw [getElem?_computeOrphanMemberSlots]
        exact if_pos hslot
    . simp

theorem tracksOrphans_finishUpdate {masterDB : DB} (h : finishUpdate now cd newcd = .ok newcd')
    (hmaster : newcd.cluster.status.master = cd.cluster.status.master)
    (hne : cd.cluster.status.master ≠ "")
    (hdb : cd.dbs[cd.cluster.status.master]? = some masterDB)
    (hstatus : (newcd.dbs[cd.cluster.status.master]?).map (fun db => db.status.orphanMemberSlots)
      = some masterDB.status.orphanMemberSlots)
    (httl : 0 < newcd.memberSlotTTL)
    : ClusterData.TracksOrphans now cd.cluster.status.master cd newcd' := by
  intro slot
  obtain ⟨newDB, hnewDB, hsame⟩ := Option.map_eq_some_iff.mp hstatus
  have horphans := orphans_finishUpdate h (hmaster ▸ hne) (hmaster ▸ hnewDB)
  rw [hmaster] at horphans
  rw [horphans, if_pos httl, hsame, ClusterData.followerSlots, ClusterData.followerSlots,
    followers_finishUpdate h, ClusterData.orphans, hdb]
  simp only [ne_eq, not_true_eq_false, decide_false, Bool.and_false]
  exact getElem?_computeOrphanMemberSlots _ _ _ slot

end Finish

section Update

theorem orphans_setupSynchronousStandbys (cd : ClusterData) (good : FinMap String DB)
    (best : List DB) (masterDB : DB)
    : (setupSynchronousStandbys env cd good best masterDB).status.orphanMemberSlots
        =
      masterDB.status.orphanMemberSlots := by
  have hmerge : (mergeReportedStandbys cd good masterDB).status.orphanMemberSlots
      = masterDB.status.orphanMemberSlots := by
    unfold mergeReportedStandbys
    dsimp only
    split
    . rfl
    . split <;> rfl
  unfold setupSynchronousStandbys
  dsimp only
  split
  . split
    . exact hmerge
    . exact hmerge
  . rfl

theorem orphans_normalCase {base mid : ClusterData} {wanted : String} {masterDB : DB}
    (h : cd.Sound) (hphase : cd.cluster.status.phase = .normal) (hfresh : env.Fresh cd.dbs)
    (hdb : cd.dbs[cd.cluster.status.master]? = some masterDB) (hbase : Base env.now cd base)
    (hmid : NormalCase env cd base pis wanted mid)
    (hmaster : mid.cluster.status.master = cd.cluster.status.master)
    : (mid.dbs[cd.cluster.status.master]?).map (fun db => db.status.orphanMemberSlots)
        =
      some masterDB.status.orphanMemberSlots := by
  have hconfirm (pis : ProxiesInfo)
      : ((confirmMaster base cd.cluster.status.master masterDB pis).dbs[
          cd.cluster.status.master]?).map (fun db => db.status.orphanMemberSlots)
        = some masterDB.status.orphanMemberSlots := by
    have hstatus : ((confirmMaster base cd.cluster.status.master masterDB pis).dbs[
          cd.cluster.status.master]?).map DB.status
        = (cd.dbs[cd.cluster.status.master]?).map DB.status :=
      status_confirmMaster hbase hdb cd.cluster.status.master
    have horphans := congrArg (Option.map DBStatus.orphanMemberSlots) hstatus
    rw [Option.map_map, Option.map_map, hdb] at horphans
    exact horphans
  cases hmid with
  | promoted _ _ _ _ _ _ hne hpromotion =>
    rw [hpromotion.cluster] at hmaster
    exact absurd hmaster hne
  | kept baseDB hbaseDB =>
    rw [hbase.dbs, hdb] at hbaseDB
    cases hbaseDB
    exact hconfirm pis
  | reconciled baseDB curMasterDB s s' _ hbaseDB hcur _ hreconcile =>
    obtain ⟨cd₁, good, best, -, hsetup⟩ :=
      (reconciled_confirmMaster h hphase hfresh hbase hbaseDB hcur hreconcile).master
    rw [hbase.dbs, hdb] at hbaseDB
    cases hbaseDB
    rw [hsetup, Option.map_map, ← hconfirm pis]
    congr 1
    funext db
    exact orphans_setupSynchronousStandbys cd₁ good best db

theorem orphans_initCase {mid : ClusterData} {masterDB : DB}
    (hdb : cd.dbs[cd.cluster.status.master]? = some masterDB) (hmid : InitCase env cd mid)
    (hmaster : mid.cluster.status.master = cd.cluster.status.master)
    (hne : cd.cluster.status.master ≠ "")
    : (mid.dbs[cd.cluster.status.master]?).map (fun db => db.status.orphanMemberSlots)
        =
      some masterDB.status.orphanMemberSlots := by
  cases hmid with
  | chosen _ hnone => exact absurd hnone hne
  | awaited =>
    rw [hdb]
    rfl
  | completed db _ hdb' =>
    rw [hdb] at hdb'
    cases hdb'
    simp [completeInit]
  | restarted => exact absurd hmaster.symm hne

theorem updateCluster_tracksOrphans (h : cd.Sound) (hfresh : env.Fresh cd.dbs)
    (hrun : s.updateCluster env cd pis = .ok (s', newcd))
    (hmaster : newcd.cluster.status.master = cd.cluster.status.master)
    (hne : cd.cluster.status.master ≠ "") (hknown : cd.cluster.status.master ∈ cd.dbs)
    (httl : 0 < newcd.memberSlotTTL)
    : newcd = cd ∨ ClusterData.TracksOrphans env.now cd.cluster.status.master cd newcd := by
  rw [Std.ExtTreeMap.mem_iff_isSome_getElem?, Option.isSome_iff_exists] at hknown
  obtain ⟨masterDB, hdb⟩ := hknown
  cases updateCluster_cases hrun with
  | paused _ heq => exact .inl heq
  | initializing _ mid hmid hfinish =>
    have hcluster := finishUpdate_cluster hfinish
    rw [hcluster] at hmaster
    rw [ClusterData.memberSlotTTL, hcluster] at httl
    exact .inr (tracksOrphans_finishUpdate hfinish hmaster hne hdb
      (orphans_initCase hdb hmid hmaster hne) httl)
  | normal hphase base mid followed wanted _ hbase hmid hfollow hfinish =>
    have hcluster := finishUpdate_cluster hfinish
    rw [hcluster] at hmaster
    rw [ClusterData.memberSlotTTL, hcluster] at httl
    rw [updateFollowers_cluster hfollow] at hmaster
    refine .inr (tracksOrphans_finishUpdate hfinish ?_ hne hdb ?_ httl)
    . rw [updateFollowers_cluster hfollow, hmaster]
    . have hmidDB := orphans_normalCase h hphase hfresh hdb hbase hmid hmaster
      obtain ⟨oldMasterDB, hold, hdbs⟩ := updateFollowers_spec hfollow
      rw [hold] at hmidDB
      rw [hdbs, if_pos rfl]
      exact hmidDB

theorem updateCluster_orphansUnused (h : cd.OrphansUnused)
    (hrun : s.updateCluster env cd pis = .ok (s', newcd)) : newcd.OrphansUnused := by
  cases updateCluster_cases hrun with
  | paused _ heq =>
    rw [heq]
    exact h
  | initializing _ mid hmid hfinish => exact orphansUnused_finishUpdate hfinish
  | normal _ base mid followed _ _ _ _ _ hfinish => exact orphansUnused_finishUpdate hfinish

end Update

section Status

variable {keepersInfo : KeepersInfo} {firstRun : Bool} {kihs : FinMap String KeeperInfoHistory}

theorem orphans_mergeReport (fresh : KeepersInfo) (db : DB)
    : (mergeReport fresh db).status.orphanMemberSlots = db.status.orphanMemberSlots := by
  unfold mergeReport
  split
  . rfl
  . unfold mergeDBState
    dsimp only
    split <;> rfl

theorem updateKeepersStatus_mem
    (h : s.updateKeepersStatus now cd keepersInfo firstRun = .ok (s', newcd, kihs))
    (hmem : uid ∈ cd.dbs) : uid ∈ newcd.dbs := by
  cases firstRun with
  | true =>
    rw [(updateKeepersStatus_firstRun h).2]
    exact hmem
  | false =>
    rw [Std.ExtTreeMap.mem_iff_isSome_getElem?, (updateKeepersStatus_merged h).getElem?_dbs,
      Option.isSome_map]
    exact Std.ExtTreeMap.mem_iff_isSome_getElem?.mp hmem

theorem updateKeepersStatus_followers
    (h : s.updateKeepersStatus now cd keepersInfo firstRun = .ok (s', newcd, kihs)) (uid : String)
    : newcd.followers uid = cd.followers uid ∧ newcd.orphans uid = cd.orphans uid := by
  cases firstRun with
  | true =>
    rw [(updateKeepersStatus_firstRun h).2]
    exact ⟨rfl, rfl⟩
  | false =>
    have hdbs := (updateKeepersStatus_merged h).getElem?_dbs uid
    rw [ClusterData.followers, ClusterData.orphans, hdbs, ClusterData.followers, ClusterData.orphans]
    cases cd.dbs[uid]? with
    | none => exact ⟨rfl, rfl⟩
    | some db =>
      refine ⟨?_, congrArg (Option.getD · ∅) (orphans_mergeReport _ db)⟩
      simp

end Status

end Sentinel

section Commits

variable {w : Writer} {cd cd' : ClusterData}

theorem commit_tracksOrphans (hsound : cd.Sound) (h : Commit w cd cd')
    (hmaster : cd'.cluster.status.master = cd.cluster.status.master)
    (hne : cd.cluster.status.master ≠ "") (hknown : cd.cluster.status.master ∈ cd.dbs)
    (httl : 0 < cd'.memberSlotTTL)
    : (cd'.followers cd.cluster.status.master = cd.followers cd.cluster.status.master
        ∧
      cd'.orphans cd.cluster.status.master = cd.orphans cd.cluster.status.master)
        ∨
      ∃ (inp : Sentinel.CheckInput) (s : Sentinel),
        w = .check inp s
          ∧
        ClusterData.TracksOrphans inp.env.now cd.cluster.status.master cd cd' := by
  cases h with
  | command now c hrun =>
    have hdb := (Operations.command_effect c hsound.assigned hrun).master_db
    rw [ClusterData.followers_roundTrip, ClusterData.orphans_roundTrip, ClusterData.followers,
      ClusterData.orphans, hdb]
    exact .inl ⟨rfl, rfl⟩
  | check inp s hfresh hcheck =>
    obtain ⟨-, s₁, s₂, s₃, s₄, firstRun, observed, kihs, pis, hstatus, hupdate⟩ :=
      Sentinel.clusterSentinelCheck_cases hcheck
    have hcluster := Sentinel.updateKeepersStatus_cluster hstatus
    obtain ⟨hfollowers, horphans⟩ :=
      Sentinel.updateKeepersStatus_followers hstatus cd.cluster.status.master
    have hobserved := hsound.of_derived
      (Sentinel.derived_updateKeepersStatus hsound.assigned (Sentinel.keyed_keepersInfo inp) hstatus)
    have htracks := Sentinel.updateCluster_tracksOrphans hobserved
      (Sentinel.fresh_updateKeepersStatus hfresh hstatus) hupdate (hcluster ▸ hmaster)
      (hcluster ▸ hne) (hcluster ▸ Sentinel.updateKeepersStatus_mem hstatus hknown) httl
    rw [ClusterData.followers_roundTrip, ClusterData.orphans_roundTrip]
    rcases htracks with rfl | htracks
    . exact .inl ⟨hfollowers, horphans⟩
    . refine .inr ⟨inp, s, rfl, ?_⟩
      intro slot
      rw [hcluster] at htracks
      have hslot := htracks slot
      rw [ClusterData.followerSlots, ClusterData.followerSlots, hfollowers, horphans] at hslot
      rw [ClusterData.followerSlots, ClusterData.followers_roundTrip, ClusterData.orphans_roundTrip]
      exact hslot

theorem orphansUnused_commit (hsound : cd.Sound) (hunused : cd.OrphansUnused) (h : Commit w cd cd')
    : cd'.OrphansUnused := by
  have hstored {cd : ClusterData} (h : cd.OrphansUnused) : cd.roundTrip.OrphansUnused := by
    intro hne slot hslot
    rw [ClusterData.followerSlots, ClusterData.followers_roundTrip] at hslot
    rw [ClusterData.orphans_roundTrip]
    exact h hne slot hslot
  cases h with
  | command now c hrun =>
    have heffect := Operations.command_effect c hsound.assigned hrun
    apply hstored
    intro hne slot hslot
    rw [heffect.master] at hne hslot ⊢
    rw [ClusterData.followerSlots, ClusterData.followers, heffect.master_db] at hslot
    rw [ClusterData.orphans, heffect.master_db]
    exact hunused hne slot hslot
  | check inp s hfresh hcheck =>
    obtain ⟨-, s₁, s₂, s₃, s₄, firstRun, observed, kihs, pis, hstatus, hupdate⟩ :=
      Sentinel.clusterSentinelCheck_cases hcheck
    refine hstored (Sentinel.updateCluster_orphansUnused ?_ hupdate)
    obtain ⟨hfollowers, horphans⟩ :=
      Sentinel.updateKeepersStatus_followers hstatus cd.cluster.status.master
    intro hne slot hslot
    rw [Sentinel.updateKeepersStatus_cluster hstatus] at hne hslot ⊢
    rw [ClusterData.followerSlots, hfollowers] at hslot
    rw [horphans]
    exact hunused hne slot hslot

theorem orphansUnused_of_commits (h : commitSystem.Reachable cd) : cd.OrphansUnused := by
  induction h with
  | init h =>
    obtain ⟨uid, spec, rfl⟩ := h
    intro hne
    exact absurd rfl hne
  | step hcd h ih =>
    obtain ⟨w, hcommit⟩ := h
    exact orphansUnused_commit (sound_of_commits hcd) ih hcommit

end Commits

section Grace

variable {cd cd' : ClusterData} {masterUID followerUID slot : String} {ttl : Duration} {since : Time}

def GraceStep (masterUID followerUID : String) (ttl : Duration) (cd cd' : ClusterData) : Prop :=
  (∃ (w : Writer), Commit w cd cd')
    ∧
  cd'.cluster.status.master = masterUID
    ∧
  cd'.cluster.defSpec.memberReplicationSlotTTL = some ttl
    ∧
  followerUID ∉ cd'.followers masterUID

theorem ttl_pos (httl : cd.cluster.defSpec.memberReplicationSlotTTL = some ttl) (hpos : 0 < ttl)
    : 0 < cd.memberSlotTTL := by
  rw [ClusterData.memberSlotTTL, httl]
  exact hpos

theorem exists_db_of_orphans (h : (cd.orphans masterUID)[slot]? = some since)
    : ∃ (masterDB : DB), cd.dbs[masterUID]? = some masterDB := by
  cases hdb : cd.dbs[masterUID]? with
  | none => simp [ClusterData.orphans, hdb] at h
  | some masterDB => exact ⟨masterDB, rfl⟩

theorem exists_db_of_followers (h : followerUID ∈ cd.followers masterUID)
    : ∃ (masterDB : DB), cd.dbs[masterUID]? = some masterDB := by
  cases hdb : cd.dbs[masterUID]? with
  | none => simp [ClusterData.followers, hdb] at h
  | some masterDB => exact ⟨masterDB, rfl⟩

theorem ne_empty_of_db (hreach : commitSystem.Reachable cd) {masterDB : DB}
    (hdb : cd.dbs[masterUID]? = some masterDB) : masterUID ≠ "" ∧ masterUID ∈ cd.dbs := by
  have hmem : masterUID ∈ cd.dbs := by
    rw [Std.ExtTreeMap.mem_iff_isSome_getElem?, hdb]
    rfl
  refine ⟨?_, hmem⟩
  rintro rfl
  exact (provisioned_of_commits hreach).ne_empty hmem

theorem mem_followerSlots
    : Keeper.hysteronName followerUID ∈ cd.followerSlots masterUID
        ↔
      followerUID ∈ cd.followers masterUID := by
  rw [ClusterData.followerSlots, List.mem_map]
  constructor
  . rintro ⟨uid, hmem, heq⟩
    rw [← Keeper.hysteronName_injective heq]
    exact hmem
  . exact fun hmem => ⟨followerUID, hmem, rfl⟩

theorem commit_keeps_since {w : Writer} (hreach : commitSystem.Reachable cd) (h : Commit w cd cd')
    (hmaster : cd'.cluster.status.master = cd.cluster.status.master)
    (httl : 0 < cd'.memberSlotTTL)
    (hsince : (cd.orphans cd.cluster.status.master)[slot]? = some since)
    : (cd'.orphans cd.cluster.status.master)[slot]?
        =
      if slot ∈ cd'.followerSlots cd.cluster.status.master then none else some since := by
  obtain ⟨masterDB, hdb⟩ := exists_db_of_orphans hsince
  obtain ⟨hne, hknown⟩ := ne_empty_of_db hreach hdb
  rcases commit_tracksOrphans (sound_of_commits hreach) h hmaster hne hknown httl with
    ⟨hfollowers, horphans⟩ | ⟨inp, s, -, htracks⟩
  . have hunused := orphansUnused_of_commits hreach hne slot
    rw [horphans, hsince, ClusterData.followerSlots, hfollowers]
    split
    . next hslot => exact absurd (hunused hslot) (by simp [hsince])
    . rfl
  . rw [htracks slot, hsince]
    rfl

theorem grace_keeps_since (hreach : commitSystem.Reachable cd)
    (hmaster : cd.cluster.status.master = masterUID) (hpos : 0 < ttl)
    (hsince : (cd.orphans masterUID)[Keeper.hysteronName followerUID]? = some since)
    (hrun : Relation.ReflTransGen (GraceStep masterUID followerUID ttl) cd cd')
    : (cd'.orphans masterUID)[Keeper.hysteronName followerUID]? = some since := by
  have hall : commitSystem.Reachable cd' ∧ cd'.cluster.status.master = masterUID
      ∧ (cd'.orphans masterUID)[Keeper.hysteronName followerUID]? = some since := by
    induction hrun with
    | refl => exact ⟨hreach, hmaster, hsince⟩
    | tail _ hstep ih =>
      obtain ⟨hcd, hmaster, hsince⟩ := ih
      obtain ⟨⟨w, hcommit⟩, hmaster', httl, hout⟩ := hstep
      refine ⟨hcd.step ⟨w, hcommit⟩, hmaster', ?_⟩
      subst hmaster
      rw [commit_keeps_since hcd hcommit hmaster' (ttl_pos httl hpos) hsince,
        if_neg (mt mem_followerSlots.mp hout)]
  exact hall.2.2

theorem dropped_of_recorded {masterDB : DB} {now : Time} {order : VisitOrder String}
    {createOK : String → Bool} {listed : Option (List Keeper.PhysicalReplicationSlot)}
    (hdb : cd.dbs[masterUID]? = some masterDB) (hpos : 0 < ttl)
    (httl : cd.cluster.defSpec.memberReplicationSlotTTL = some ttl)
    (hsince : (cd.orphans masterUID)[slot]? = some since)
    (hdropped : slot ∈ (Keeper.refreshReplicationSlots now order createOK listed cd.cluster.defSpec
      masterDB cd.dbs).dropped)
    : since + ttl ≤ now
        ∧
      ∃ slotState ∈ listed.getD [],
        slotState.name = slot ∧ slotState.active = false ∧ slotState.hasXmin = false := by
  have hdecision := (Keeper.mem_dropped hdropped).2
  rw [ClusterData.orphans, hdb, Option.bind_some] at hsince
  rw [httl, Option.getD_some, Keeper.shouldDrop_of_tracked hpos hsince] at hdecision
  obtain ⟨helapsed, slotState, hstate, hactive, hxmin⟩ := hdecision
  obtain ⟨hmem, hname⟩ := Keeper.mem_of_physicalSlotState hstate
  exact ⟨helapsed, slotState, hmem, hname, hactive, hxmin⟩

theorem commit_unrecorded {w : Writer} (hreach : commitSystem.Reachable cd) (h : Commit w cd cd')
    (hmaster : cd'.cluster.status.master = cd.cluster.status.master)
    (hknown : cd.cluster.status.master ∈ cd.dbs) (httl : 0 < cd'.memberSlotTTL)
    (hunlisted : followerUID ∉ cd.followers cd.cluster.status.master)
    (hunrecorded
      : (cd.orphans cd.cluster.status.master)[Keeper.hysteronName followerUID]? = none)
    : (cd'.orphans cd.cluster.status.master)[Keeper.hysteronName followerUID]? = none := by
  have hne : cd.cluster.status.master ≠ "" := by
    intro hempty
    rw [hempty] at hknown
    exact (provisioned_of_commits hreach).ne_empty hknown
  rcases commit_tracksOrphans (sound_of_commits hreach) h hmaster hne hknown httl with
    ⟨-, horphans⟩ | ⟨inp, s, -, htracks⟩
  . rw [horphans, hunrecorded]
  . rw [htracks, hunrecorded, if_neg (mt mem_followerSlots.mp hunlisted)]
    split <;> rfl

theorem dropped_iff_of_unrecorded {masterDB : DB} {now : Time} {order : VisitOrder String}
    {createOK : String → Bool} {listed : Option (List Keeper.PhysicalReplicationSlot)}
    (hdb : cd.dbs[masterUID]? = some masterDB) (hgone : followerUID ∉ cd.dbs)
    (hunrecorded : (cd.orphans masterUID)[Keeper.hysteronName followerUID]? = none)
    : Keeper.hysteronName followerUID ∈ (Keeper.refreshReplicationSlots now order createOK listed
        cd.cluster.defSpec masterDB cd.dbs).dropped
        ↔
      Keeper.hysteronName followerUID ∈ Keeper.unmanagedReplicationSlots
        ((listed.getD []).map Keeper.PhysicalReplicationSlot.name) masterDB := by
  rw [Keeper.refreshReplicationSlots, Keeper.mem_updateReplSlots_dropped, and_iff_left]
  rintro ⟨-, hprotected⟩
  rw [ClusterData.orphans, hdb, Option.bind_some] at hunrecorded
  rw [hunrecorded] at hprotected
  obtain ⟨uid, hmem, heq⟩ := hprotected
  rw [← Keeper.hysteronName_injective heq, Std.ExtTreeMap.mem_keys] at hmem
  exact hgone hmem

/--
If the slots of former members are retained for `ttl` and a check at some time removes a database
from the followers of the master, then that time is recorded and stays recorded for as long as the
master stays and the database is no follower again. Until `ttl` after that time, the keeper of the
master does not drop the slot, and it never drops it while it is active or has an xmin. The time
recorded for a slot never changes while the slot is an orphan. A database that is removed without
being listed is not recorded, and its slot is dropped at any time.
-/
theorem member_slot_grace (ttl : Duration) (hpos : 0 < ttl)
    : (∀ {cd₀ cd₁ cd : ClusterData} {inp : Sentinel.CheckInput} {s : Sentinel} {followerUID : String},
        commitSystem.Reachable cd₀
          →
        Commit (.check inp s) cd₀ cd₁
          →
        cd₁.cluster.status.master = cd₀.cluster.status.master
          →
        cd₁.cluster.defSpec.memberReplicationSlotTTL = some ttl
          →
        followerUID ∈ cd₀.followers cd₀.cluster.status.master
          →
        followerUID ∉ cd₁.followers cd₀.cluster.status.master
          →
        Relation.ReflTransGen (GraceStep cd₀.cluster.status.master followerUID ttl) cd₁ cd
          →
        ∃ (masterDB : DB),
          cd.dbs[cd₀.cluster.status.master]? = some masterDB
            ∧
          (cd.orphans cd₀.cluster.status.master)[Keeper.hysteronName followerUID]?
            = some inp.env.now
            ∧
          ∀ {now : Time} {order : VisitOrder String} {createOK : String → Bool}
            {listed : Option (List Keeper.PhysicalReplicationSlot)},
            Keeper.hysteronName followerUID ∈ (Keeper.refreshReplicationSlots now order createOK
              listed cd.cluster.defSpec masterDB cd.dbs).dropped
              →
            inp.env.now + ttl ≤ now
              ∧
            ∃ slot ∈ listed.getD [],
              slot.name = Keeper.hysteronName followerUID
                ∧
              slot.active = false
                ∧
              slot.hasXmin = false)
        ∧
      (∀ {w : Writer} {cd cd' : ClusterData} {slot : String} {since since' : Time},
        commitSystem.Reachable cd
          →
        Commit w cd cd'
          →
        cd'.cluster.status.master = cd.cluster.status.master
          →
        cd'.cluster.defSpec.memberReplicationSlotTTL = some ttl
          →
        (cd.orphans cd.cluster.status.master)[slot]? = some since
          →
        (cd'.orphans cd.cluster.status.master)[slot]? = some since'
          →
        since' = since)
        ∧
      ∀ {w : Writer} {cd cd' : ClusterData} {masterDB : DB} {followerUID : String} {now : Time}
        {order : VisitOrder String} {createOK : String → Bool}
        {listed : Option (List Keeper.PhysicalReplicationSlot)},
        commitSystem.Reachable cd
          →
        Commit w cd cd'
          →
        cd'.cluster.status.master = cd.cluster.status.master
          →
        cd'.cluster.defSpec.memberReplicationSlotTTL = some ttl
          →
        cd.cluster.status.master ∈ cd.dbs
          →
        followerUID ∉ cd.followers cd.cluster.status.master
          →
        (cd.orphans cd.cluster.status.master)[Keeper.hysteronName followerUID]? = none
          →
        cd'.dbs[cd.cluster.status.master]? = some masterDB
          →
        followerUID ∉ cd'.dbs
          →
        (Keeper.hysteronName followerUID ∈ (Keeper.refreshReplicationSlots now order createOK listed
            cd'.cluster.defSpec masterDB cd'.dbs).dropped
          ↔
        Keeper.hysteronName followerUID ∈ Keeper.unmanagedReplicationSlots
          ((listed.getD []).map Keeper.PhysicalReplicationSlot.name) masterDB) := by
  refine ⟨?_, ?_, ?_⟩
  . intro cd₀ cd₁ cd inp s followerUID hreach hstep hmaster httl hfollower hgone hrun
    obtain ⟨masterDB₀, hdb₀⟩ := exists_db_of_followers hfollower
    obtain ⟨hne, hknown⟩ := ne_empty_of_db hreach hdb₀
    have hunused := orphansUnused_of_commits hreach hne _ (mem_followerSlots.mpr hfollower)
    -- The check that removes the follower records its slot.
    have hsince : (cd₁.orphans cd₀.cluster.status.master)[Keeper.hysteronName followerUID]?
        = some inp.env.now := by
      rcases commit_tracksOrphans (sound_of_commits hreach) hstep hmaster hne hknown
        (ttl_pos httl hpos) with ⟨hfollowers, -⟩ | ⟨inp', s', heq, htracks⟩
      . rw [hfollowers] at hgone
        exact absurd hfollower hgone
      . cases heq
        rw [htracks, if_neg (mt mem_followerSlots.mp hgone), hunused,
          if_pos (mem_followerSlots.mpr hfollower)]
        rfl
    have hsince' := grace_keeps_since (hreach.step ⟨_, hstep⟩) hmaster hpos hsince hrun
    have httl' : cd.cluster.defSpec.memberReplicationSlotTTL = some ttl := by
      cases hrun with
      | refl => exact httl
      | tail _ hlast => exact hlast.2.2.1
    obtain ⟨masterDB, hdb⟩ := exists_db_of_orphans hsince'
    exact ⟨masterDB, hdb, hsince', fun hdropped =>
      dropped_of_recorded hdb hpos httl' hsince' hdropped⟩
  . intro w cd cd' slot since since' hreach hcommit hmaster httl hsince hsince'
    rw [commit_keeps_since hreach hcommit hmaster (ttl_pos httl hpos) hsince] at hsince'
    split at hsince'
    . cases hsince'
    . exact (Option.some.inj hsince').symm
  . intro w cd cd' masterDB followerUID now order createOK listed hreach hcommit hmaster httl hknown
      hunlisted hunrecorded hdb hgone
    exact dropped_iff_of_unrecorded hdb hgone
      (commit_unrecorded hreach hcommit hmaster hknown (ttl_pos httl hpos) hunlisted hunrecorded)

end Grace

section Sample

def sampleRemoved : ClusterData :=
  commanded 5 (.removeKeeper .stored "k2")
    (sampleReplicated { initMode := some .new, memberReplicationSlotTTL := some 10 })

theorem reachable_sampleRemoved : commitSystem.Reachable sampleRemoved :=
  reachable_commanded (reachable_sampleChecked (by decide +kernel)
    (reachable_sampleChecked (by decide +kernel) (reachable_sampleChecked (by decide +kernel)
      (reachable_sampleChecked (by decide +kernel) (.init ⟨"cluster",
        { initMode := some .new, memberReplicationSlotTTL := some 10 }, rfl⟩)))))

def sampleOrphaned : ClusterData :=
  sampleChecked 6 2 [sampleInfo 6 "k1" (some (sampleState "d" 3))] sampleRemoved

theorem member_slot_grace_sample
    : ∃ (masterDB : DB),
        sampleOrphaned.dbs["d"]? = some masterDB
          ∧
        (sampleOrphaned.orphans "d")["hysteron_dd"]? = some 6
          ∧
        ∀ {now : Time} {order : VisitOrder String} {createOK : String → Bool}
          {listed : Option (List Keeper.PhysicalReplicationSlot)},
          "hysteron_dd" ∈ (Keeper.refreshReplicationSlots now order createOK listed
            sampleOrphaned.cluster.defSpec masterDB sampleOrphaned.dbs).dropped → 16 ≤ now := by
  have hmaster : sampleRemoved.cluster.status.master = "d" := by decide +kernel
  have hstep : Commit (.check (sampleCheck 6 2 [sampleInfo 6 "k1" (some (sampleState "d" 3))])
      { lastLeadershipCount := 1 }) sampleRemoved sampleOrphaned :=
    commit_checked (Env.fresh_simplest (by decide +kernel)) (by decide +kernel)
  have hfollower : "dd" ∈ sampleRemoved.followers sampleRemoved.cluster.status.master := by
    decide +kernel
  obtain ⟨masterDB, hdb, hsince, htick⟩ := (member_slot_grace 10 (by decide)).1 reachable_sampleRemoved
    hstep (by decide +kernel) (by decide +kernel) hfollower (by decide +kernel) .refl
  rw [hmaster] at hdb hsince
  exact ⟨masterDB, hdb, hsince, fun hdropped => (htick hdropped).1⟩

/--
The master `d` has been elected again and does not list its follower `ddd`. The next check removes
`ddd`, and a tick one second later drops the slot, which is to be retained for an hour.
-/
theorem unlisted_follower_slot_dropped
    : ∃ (inp : Sentinel.CheckInput) (s : Sentinel) (cd cd' : ClusterData) (masterDB : DB)
        (now : Time),
        commitSystem.Reachable cd
          ∧
        Commit (.check inp s) cd cd'
          ∧
        cd.cluster.status.master = "d"
          ∧
        cd'.cluster.status.master = "d"
          ∧
        cd'.cluster.defSpec.memberReplicationSlotTTL = some (3600 * second)
          ∧
        cd.Follower "d" "ddd"
          ∧
        ¬ cd'.Follower "d" "ddd"
          ∧
        cd'.dbs["d"]? = some masterDB
          ∧
        now < inp.env.now + 3600 * second
          ∧
        "hysteron_ddd" ∈ (Keeper.refreshReplicationSlots now .stored (fun _ => true)
          (some [{ name := "hysteron_ddd" }]) cd'.cluster.defSpec masterDB cd'.dbs).dropped := by
  have hfollower : (Sentinel.sampleReelected 5).2.Follower "d" "ddd" :=
    ⟨by decide, by decide +kernel⟩
  have hrun : (((Sentinel.sampleReelected 5).1.clusterSentinelCheck (Sentinel.sampleReelection 5)
      (Sentinel.sampleReelected 5).2).2.map (fun newcd =>
        let cd' := newcd.roundTrip
        (cd'.cluster.status.master, cd'.cluster.defSpec.memberReplicationSlotTTL,
          (cd'.dbs["ddd"]?).isSome,
          (cd'.dbs["d"]?).map (fun masterDB => (Keeper.refreshReplicationSlots (91 * second) .stored
            (fun _ => true) (some [{ name := "hysteron_ddd" }]) cd'.cluster.defSpec masterDB
            cd'.dbs).dropped))))
      = some ("d", some (3600 * second), false, some ["hysteron_ddd"]) := by
    decide +kernel
  rw [Option.map_eq_some_iff] at hrun
  obtain ⟨newcd, hcheck, hnewcd⟩ := hrun
  simp only [Prod.mk.injEq, Option.map_eq_some_iff] at hnewcd
  obtain ⟨hmaster, httl, hgone, masterDB, hdb, hdropped⟩ := hnewcd
  refine ⟨_, _, _, newcd.roundTrip, masterDB, 91 * second,
    Sentinel.reachable_sampleReelected (n := 5) (by decide),
    .check _ _ (Sentinel.fresh_sampleReelected (by decide)) hcheck, by decide +kernel, hmaster, httl,
    hfollower, ?_, hdb, by decide, by rw [hdropped]; decide⟩
  rintro ⟨-, hfollows⟩
  rw [Option.isSome_eq_false_iff, Option.isNone_iff_eq_none] at hgone
  rw [hgone] at hfollows
  cases hfollows

end Sample

end Hysteron
