import Hysteron.Keeper.Replication
import Hysteron.Safety.CheckRuns
import Hysteron.Safety.MasterChange

/-!
The followers that the spec of the master lists, against the databases that follow it. Every update
lists them anew for the database that was the master when it started. A master that has just been
elected keeps the list that it had before, which may be outdated when it has been the master before.
-/

namespace Hysteron

def DBSpec.follows (spec : DBSpec) (uid : String) : Bool :=
  spec.followConfig.any (fun fc => fc.type = .internal && fc.dbuid = uid)

namespace ClusterData

variable {cd cd' : ClusterData} {uid followerUID : String}

def followers (cd : ClusterData) (uid : String) : List String :=
  ((cd.dbs[uid]?).map (fun db => db.spec.followers.elems)).getD []

def Follower (cd : ClusterData) (uid followerUID : String) : Prop :=
  followerUID ≠ uid ∧ (cd.dbs[followerUID]?).map (fun db => db.spec.follows uid) = some true

structure FollowersMatch (cd : ClusterData) (uid : String) : Prop where
  sorted : (cd.followers uid).Pairwise (· < ·)
  mem_iff : ∀ (followerUID : String), followerUID ∈ cd.followers uid ↔ cd.Follower uid followerUID

def SlotsManaged (cd : ClusterData) (uid : String) : Prop :=
  ∀ (db : DB), cd.dbs[uid]? = some db →
    ∀ (followerUID : String), cd.Follower uid followerUID →
      ∀ (curReplSlots : List String),
        Keeper.hysteronName followerUID ∉ Keeper.unmanagedReplicationSlots curReplSlots db

theorem FollowersMatch.slotsManaged (h : cd.FollowersMatch uid) (hkeyed : cd.Keyed)
    : cd.SlotsManaged uid := by
  intro db hdb followerUID hfollower curReplSlots
  have hlisted := (h.mem_iff followerUID).mpr hfollower
  rw [followers, hdb] at hlisted
  apply Keeper.not_mem_unmanagedReplicationSlots hlisted
  rw [hkeyed uid db hdb]
  exact hfollower.1

theorem followersMatch_congr (hfollowers : cd'.followers uid = cd.followers uid)
    (hfollows : ∀ followerUID, followerUID ≠ uid →
      (cd'.dbs[followerUID]?).map (fun db => db.spec.follows uid)
        = (cd.dbs[followerUID]?).map (fun db => db.spec.follows uid))
    : cd'.FollowersMatch uid ↔ cd.FollowersMatch uid := by
  have hfollower (followerUID : String)
      : cd'.Follower uid followerUID ↔ cd.Follower uid followerUID := by
    unfold Follower
    exact and_congr_right (fun hne => by rw [hfollows followerUID hne])
  constructor
  . rintro ⟨hsorted, hmem⟩
    exact ⟨hfollowers ▸ hsorted, fun f => hfollowers ▸ (hmem f).trans (hfollower f)⟩
  . rintro ⟨hsorted, hmem⟩
    exact ⟨hfollowers ▸ hsorted, fun f => hfollowers ▸ (hmem f).trans (hfollower f).symm⟩

theorem followersMatch_map (f : String → DB → DB)
    (hdbs : ∀ (uid : String), cd'.dbs[uid]? = (cd.dbs[uid]?).map (f uid))
    (hfollowers : ∀ (uid : String) (db : DB),
      (f uid db).spec.followers.elems = db.spec.followers.elems)
    (hfollows : ∀ (uid' : String) (db : DB) (uid : String),
      (f uid' db).spec.follows uid = db.spec.follows uid)
    : cd'.FollowersMatch uid ↔ cd.FollowersMatch uid := by
  apply followersMatch_congr
  . rw [followers, followers, hdbs, Option.map_map]
    congr 2
    funext db
    exact hfollowers uid db
  . intro followerUID _
    rw [hdbs, Option.map_map]
    congr 1
    funext db
    exact hfollows followerUID db uid

theorem followersMatch_roundTrip : cd.roundTrip.FollowersMatch uid ↔ cd.FollowersMatch uid :=
  followersMatch_map (fun _ db => db.roundTrip)
    (fun _ => by rw [roundTrip, Std.ExtTreeMap.getElem?_map]) (fun _ _ => rfl) (fun _ _ _ => rfl)

theorem keyed_roundTrip (h : cd.Keyed) : cd.roundTrip.Keyed := by
  intro uid db hdb
  rw [roundTrip, Std.ExtTreeMap.getElem?_map, Option.map_eq_some_iff] at hdb
  obtain ⟨db, hdb, rfl⟩ := hdb
  exact h uid db hdb

end ClusterData

namespace Sentinel

variable {env : Env} {s s' : Sentinel} {cd newcd newcd' : ClusterData} {pis : ProxiesInfo}
variable {uid wanted : String} {now : Time}

section Followers

theorem mem_followersOf {masterUID followerUID : String} (hkeyed : newcd.Keyed)
    : followerUID ∈ followersOf newcd masterUID wanted
        ↔
      followerUID ≠ masterUID
        ∧
      (newcd.dbs[followerUID]?).map (fun db => db.spec.follows wanted) = some true := by
  simp only [followersOf, Slices.mem_sortStrings, List.mem_map, FinMap.mem_values,
    FinMap.getElem?_filter_eq_some, Option.map_eq_some_iff, Bool.and_eq_true, decide_eq_true_eq]
  constructor
  . rintro ⟨db, ⟨key, hdb, hne, hfollows⟩, rfl⟩
    rw [hkeyed key db hdb] at hne ⊢
    exact ⟨hne, db, hdb, hfollows⟩
  . rintro ⟨hne, db, hdb, hfollows⟩
    have huid := hkeyed followerUID db hdb
    exact ⟨db, ⟨followerUID, hdb, huid ▸ hne, hfollows⟩, huid⟩

theorem pairwise_followersOf {masterUID : String} (hkeyed : newcd.Keyed)
    : (followersOf newcd masterUID wanted).Pairwise (· < ·) := by
  apply Slices.pairwise_sortStrings
  apply FinMap.nodup_map_valuesIn
  intro key db hdb
  rw [FinMap.getElem?_filter_eq_some] at hdb
  exact hkeyed key db hdb.1

theorem updateFollowers_spec (h : updateFollowers newcd uid wanted = .ok newcd')
    : ∃ (masterDB : DB),
        newcd.dbs[uid]? = some masterDB
          ∧
        ∀ (uid' : String),
          newcd'.dbs[uid']?
            =
          if uid' = uid then
            some { masterDB with
              spec := { masterDB.spec with
                followers := some (followersOf newcd masterDB.uid wanted) } }
          else
            newcd.dbs[uid']? := by
  unfold updateFollowers at h
  split at h
  . cases h
  . next masterDB hmaster =>
    cases h
    refine ⟨masterDB, hmaster, ?_⟩
    intro uid'
    rw [Std.ExtTreeMap.getElem?_insert]
    by_cases heq : uid' = uid
    . simp [heq]
    . simp [heq, Ne.symm heq]

theorem updateFollowers_followersMatch (hkeyed : newcd.Keyed)
    (h : updateFollowers newcd uid uid = .ok newcd') : newcd'.FollowersMatch uid := by
  obtain ⟨masterDB, hmaster, hdbs⟩ := updateFollowers_spec h
  have hfollowers : newcd'.followers uid = followersOf newcd uid uid := by
    rw [ClusterData.followers, hdbs, if_pos rfl, hkeyed uid masterDB hmaster]
    rfl
  constructor
  . rw [hfollowers]
    exact pairwise_followersOf hkeyed
  . intro followerUID
    rw [hfollowers, mem_followersOf hkeyed, ClusterData.Follower]
    refine and_congr_right (fun hne => ?_)
    rw [hdbs, if_neg hne]

theorem followers_dbSpecFromClusterSpec (clusterSpec : DefSpec) (dt : Except Fault DBType)
    (spec : DBSpec) : (dbSpecFromClusterSpec clusterSpec dt spec).followers = spec.followers := by
  unfold dbSpecFromClusterSpec
  dsimp only
  split <;> rfl

theorem follows_dbSpecFromClusterSpec (clusterSpec : DefSpec) (dt : Except Fault DBType)
    (spec : DBSpec) : (dbSpecFromClusterSpec clusterSpec dt spec).follows uid = spec.follows uid := by
  have hkept := congrArg (Option.any (fun fc => fc.1 = .internal && fc.2 = uid))
    (dbSpecFromClusterSpec_followConfig_map clusterSpec dt spec)
  rw [Option.any_map, Option.any_map] at hkept
  exact hkept

theorem finishUpdate_followersMatch (h : finishUpdate now cd newcd = .ok newcd')
    : newcd'.FollowersMatch uid ↔ newcd.FollowersMatch uid := by
  have hfinished := finishUpdate_finished h
  choose orphans hdbs using hfinished.getElem?_dbs
  exact ClusterData.followersMatch_map _ hdbs
    (fun _ _ => congrArg Slice.elems (followers_dbSpecFromClusterSpec _ _ _))
    (fun _ _ _ => follows_dbSpecFromClusterSpec _ _ _)

theorem followers_inheritSynchronousStandbys (clusterSpec : DefSpec) (oldMasterDB newMasterDB : DB)
    (spec : DBSpec)
    : (inheritSynchronousStandbys clusterSpec oldMasterDB newMasterDB spec).followers
        =
      spec.followers := by
  unfold inheritSynchronousStandbys
  split <;> rfl

theorem promotion_followersMatch {base : ClusterData} {oldMasterDB newMasterDB : DB} {role : Role}
    {followConfig : Option FollowConfig} (hne : wanted ≠ uid)
    (hpromotion : Promotion base newcd uid wanted oldMasterDB newMasterDB role followConfig)
    (hfollow : updateFollowers newcd uid wanted = .ok newcd')
    : newcd'.FollowersMatch wanted ↔ base.FollowersMatch wanted := by
  obtain ⟨masterDB, hmaster, hdbs⟩ := updateFollowers_spec hfollow
  rw [hpromotion.getElem?_dbs, if_neg (Ne.symm hne), if_pos rfl] at hmaster
  cases hmaster
  apply ClusterData.followersMatch_congr
  . rw [ClusterData.followers, hdbs, if_neg hne, hpromotion.getElem?_dbs, if_pos rfl,
      ClusterData.followers, hpromotion.new]
    simp only [Option.map_some, Option.getD_some, promoted]
    exact congrArg Slice.elems (followers_inheritSynchronousStandbys _ _ _ _)
  . intro followerUID hother
    rw [hdbs]
    split
    . next heq =>
      rw [heq, hpromotion.old]
      rfl
    . next hold => rw [hpromotion.getElem?_dbs, if_neg hother, if_neg hold]

end Followers

section Step

theorem updateCluster_followersMatch (hsound : cd.Sound) (hfresh : env.Fresh cd.dbs)
    (hphase : cd.cluster.status.phase = .normal)
    (hpaused : cd.cluster.status.pauseActive env.now = false)
    (h : s.updateCluster env cd pis = .ok (s', newcd))
    : newcd.FollowersMatch newcd.cluster.status.master
        ↔
      (newcd.cluster.status.master ≠ cd.cluster.status.master →
        cd.FollowersMatch newcd.cluster.status.master) := by
  simp only [updateCluster, hphase, hpaused, Bool.false_eq_true, ↓reduceIte, Except.bind_eq_ok_iff,
    Except.pure_eq_ok, Except.ok.injEq, Prod.mk.injEq] at h
  obtain ⟨⟨sm, followed⟩, hnormal, newcd', hfinish, -, rfl⟩ := h
  obtain ⟨base, mid, wanted, -, hbase, hmid, hfollow⟩ := updateNormal_normalCase hnormal
  have hkeyed := (sound_normalCase hsound hphase hfresh hbase hmid).assigned.keyed
  rw [finishUpdate_followersMatch hfinish, finishUpdate_cluster hfinish,
    updateFollowers_cluster hfollow]
  -- A master that stays has just got its list.
  have hstays (hmaster : mid.cluster.status.master = cd.cluster.status.master)
      (hfollow : updateFollowers mid cd.cluster.status.master cd.cluster.status.master
        = .ok followed)
      : followed.FollowersMatch mid.cluster.status.master
          ↔
        (mid.cluster.status.master ≠ cd.cluster.status.master →
          cd.FollowersMatch mid.cluster.status.master) := by
    rw [hmaster]
    exact iff_of_true (updateFollowers_followersMatch hkeyed hfollow) (fun hne => absurd rfl hne)
  cases hmid with
  | promoted _ _ _ _ _ _ hne hpromotion =>
    have hmaster : mid.cluster.status.master = wanted := by rw [hpromotion.cluster]
    have hcd : base.FollowersMatch wanted ↔ cd.FollowersMatch wanted :=
      ClusterData.followersMatch_congr
        (by rw [ClusterData.followers, ClusterData.followers, hbase.dbs])
        (fun _ _ => by rw [hbase.dbs])
    rw [hmaster, promotion_followersMatch hne hpromotion hfollow, hcd]
    exact ⟨fun hmatch _ => hmatch, fun hmatch => hmatch hne⟩
  | kept => exact hstays hbase.master hfollow
  | reconciled _ _ _ _ _ _ _ _ hreconcile =>
    apply hstays _ hfollow
    rw [reconcileStandbys_cluster hreconcile]
    exact hbase.master

/--
After an update in the normal phase, the list of the master matches the databases that follow it and
its keeper takes none of their slots for an unmanaged one, exactly if a paused cluster had this
property before and every database to which a change of the master is due had it when it was
elected.
-/
theorem master_followers_match_iff (env : Env) (s s' : Sentinel) (cd newcd : ClusterData)
    (pis : ProxiesInfo) (curMasterDB : DB) (hreach : clusterDataSystem.Reachable cd)
    (hfresh : env.Fresh cd.dbs) (hphase : cd.cluster.status.phase = .normal)
    (hcur : cd.dbs[cd.cluster.status.master]? = some curMasterDB)
    (h : s.updateCluster env cd pis = .ok (s', newcd))
    : (newcd.FollowersMatch newcd.cluster.status.master
        ∧
      newcd.roundTrip.SlotsManaged newcd.cluster.status.master)
        ↔
      if cd.cluster.status.pauseActive env.now = true then
        cd.FollowersMatch cd.cluster.status.master
      else
        ∀ uid, uid ≠ cd.cluster.status.master → MasterChangeDue env s cd curMasterDB uid →
          cd.FollowersMatch uid := by
  have hsound := sound_inductive.of_reachable hreach
  have hkeyed := (sound_updateCluster hsound hfresh h).assigned.keyed
  have hmanaged (hmatch : newcd.FollowersMatch newcd.cluster.status.master)
      : newcd.roundTrip.SlotsManaged newcd.cluster.status.master :=
    (ClusterData.followersMatch_roundTrip.mpr hmatch).slotsManaged (ClusterData.keyed_roundTrip hkeyed)
  rw [and_iff_left_of_imp hmanaged]
  split
  . next hpaused =>
    simp only [updateCluster, hphase, hpaused, ↓reduceIte] at h
    cases h
    exact .rfl
  . next hpaused =>
    have hpaused : cd.cluster.status.pauseActive env.now = false := by simpa using hpaused
    rw [updateCluster_followersMatch hsound hfresh hphase hpaused h,
      updateCluster_new_master_iff hphase hcur h, hpaused]
    simp

end Step

section Sample

/--
A cluster of three keepers. The master `d` does not apply its spec in time, so that `dd` is elected,
which does not apply its own in time either. The standby `ddd` follows `d` all the time, until it is
found on another timeline by the check after `d` is elected again.
-/
def sampleReelection (n : Nat) : CheckInput :=
  match n with
  | 0 => sampleCheck 1 0 [sampleInfo 1 "k1" none, sampleInfo 1 "k2" none, sampleInfo 1 "k3" none]
  | 1 => sampleCheck 2 1 [sampleInfo 2 "k1" (some (sampleState "d" 1)), sampleInfo 2 "k2" none,
      sampleInfo 2 "k3" none]
  | 2 => sampleCheck 3 1 [sampleInfo 3 "k1" (some (sampleState "d" 2)), sampleInfo 3 "k2" none,
      sampleInfo 3 "k3" none]
  | 3 => sampleCheck (40 * second) 3 [sampleInfo 4 "k1" (some (sampleState "d" 2)),
      sampleInfo 4 "k2" (some (sampleState "dd" 1)), sampleInfo 4 "k3" (some (sampleState "ddd" 1))]
  | 4 => sampleCheck (80 * second) 3 [sampleInfo 5 "k1" (some (sampleState "d" 4)),
      sampleInfo 5 "k2" (some (sampleState "dd" 1)), sampleInfo 5 "k3" (some (sampleState "ddd" 1))]
  | _ => sampleCheck (90 * second) 3 [sampleInfo 6 "k1" (some (sampleState "d" 4)),
      sampleInfo 6 "k2" (some (sampleState "dd" 1)),
      sampleInfo 6 "k3" (some { sampleState "ddd" 1 with timelineID := 2 })]

def sampleRetainingSpec : ClusterSpec where
  initMode := some .new
  memberReplicationSlotTTL := some (3600 * second)

def sampleReelected (n : Nat) : Sentinel × ClusterData :=
  CheckRun.steadyStates sampleReelection { lastLeadershipCount := 1 }
    (newClusterData (newCluster "cluster" sampleRetainingSpec)).roundTrip n

theorem fresh_sampleReelected {n : Nat} (hn : n ≤ 5)
    : (sampleReelection n).env.Fresh (sampleReelected n).2.dbs := by
  have hlengths : ∀ n ≤ 5, ∀ uid ∈ (sampleReelected n).2.dbs.keys,
      uid.length ≤ match n with | 0 => 0 | 1 => 1 | 2 => 1 | _ => 3 := by
    decide +kernel
  match n, hn with
  | 0, hn => exact Env.fresh_simplest (hlengths 0 hn)
  | 1, hn => exact Env.fresh_simplest (hlengths 1 hn)
  | 2, hn => exact Env.fresh_simplest (hlengths 2 hn)
  | 3, hn => exact Env.fresh_simplest (hlengths 3 hn)
  | 4, hn => exact Env.fresh_simplest (hlengths 4 hn)
  | 5, hn => exact Env.fresh_simplest (hlengths 5 hn)

theorem reachable_sampleReelected {n : Nat} (hn : n ≤ 5)
    : commitSystem.Reachable (sampleReelected n).2 :=
  CheckRun.reachable_steadyStates (.init ⟨"cluster", sampleRetainingSpec, rfl⟩)
    (fun m hm => fresh_sampleReelected (by omega))

theorem update_of_sampleReelected {n : Nat} (hn : n ≤ 5) {cd' : ClusterData}
    (h : ((sampleReelected n).1.clusterSentinelCheck (sampleReelection n) (sampleReelected n).2).2
      = some cd')
    : ∃ (s s' : Sentinel) (observed : ClusterData) (pis : ProxiesInfo),
        clusterDataSystem.Reachable observed
          ∧
        (sampleReelection n).env.Fresh observed.dbs
          ∧
        observed.cluster = (sampleReelected n).2.cluster
          ∧
        s.updateCluster (sampleReelection n).env observed pis = .ok (s', cd') := by
  obtain ⟨-, s₁, s₂, s₃, s₄, firstRun, observed, kihs, pis, hstatus, hupdate⟩ :=
    clusterSentinelCheck_cases h
  have hreach := reachable_of_commits (reachable_sampleReelected hn)
  refine ⟨s₃, s₄, observed, pis, hreach.step (.updateKeepersStatus s₁ s₂ _ _ firstRun kihs hstatus),
    fresh_updateKeepersStatus (fresh_sampleReelected hn) hstatus,
    updateKeepersStatus_cluster hstatus, hupdate⟩

theorem master_followers_match_iff_sample
    : ∃ (newcd : ClusterData),
        newcd.FollowersMatch "d"
          ∧
        newcd.followers "d" = ["dd", "ddd"]
          ∧
        newcd.roundTrip.SlotsManaged "d" := by
  have hrun : (((sampleReelected 2).1.clusterSentinelCheck (sampleReelection 2)
      (sampleReelected 2).2).2.map (fun cd' =>
        ((sampleReelected 2).2.cluster.status, cd'.cluster.status.master, cd'.followers "d")))
      = some ({ phase := .normal, master := "d" }, "d", ["dd", "ddd"]) := by
    decide +kernel
  rw [Option.map_eq_some_iff] at hrun
  obtain ⟨newcd, hcheck, hnewcd⟩ := hrun
  simp only [Prod.mk.injEq] at hnewcd
  obtain ⟨hstatus, hmaster, hfollowers⟩ := hnewcd
  obtain ⟨s, s', cd, pis, hreach, hfresh, hcluster, hupdate⟩ :=
    update_of_sampleReelected (by decide) hcheck
  rw [← hcluster] at hstatus
  have hphase : cd.cluster.status.phase = .normal := by rw [hstatus]
  have hcdMaster : cd.cluster.status.master = "d" := by rw [hstatus]
  obtain ⟨curMasterDB, hcur, -⟩ := (sound_inductive.of_reachable hreach).master hphase
  have hunpaused : ¬ cd.cluster.status.pauseActive (sampleReelection 2).env.now = true := by
    rw [hstatus]
    decide
  have hmatch := (master_followers_match_iff _ s s' cd newcd pis curMasterDB hreach hfresh hphase
    hcur hupdate).mpr ?_
  . rw [hmaster] at hmatch
    exact ⟨newcd, hmatch.1, hfollowers, hmatch.2⟩
  . rw [if_neg hunpaused]
    intro uid hne hdue
    have hnew := (updateCluster_changes_master_iff hphase hcur hupdate hne).mpr
      ⟨by simpa using hunpaused, hdue⟩
    rw [hmaster] at hnew
    exact absurd (hnew.symm.trans hcdMaster.symm) hne

/--
The earlier master `d` is elected again. Its spec lists no followers although `ddd` follows it, and
its keeper takes the slot of `ddd` for an unmanaged one.
-/
theorem reelected_master_lists_no_followers
    : ∃ (env : Env) (s s' : Sentinel) (cd newcd : ClusterData) (pis : ProxiesInfo),
        clusterDataSystem.Reachable cd
          ∧
        cd.cluster.status.phase = .normal
          ∧
        s.updateCluster env cd pis = .ok (s', newcd)
          ∧
        newcd.cluster.status.master = "d"
          ∧
        newcd.followers "d" = []
          ∧
        newcd.Follower "d" "ddd"
          ∧
        ¬ newcd.FollowersMatch "d"
          ∧
        ¬ newcd.roundTrip.SlotsManaged "d" := by
  have hphase : (sampleReelected 4).2.cluster.status.phase = .normal := by decide +kernel
  have hrun : (((sampleReelected 4).1.clusterSentinelCheck (sampleReelection 4)
      (sampleReelected 4).2).2.map (fun cd' =>
        (cd'.cluster.status.master, cd'.followers "d",
          (cd'.dbs["ddd"]?).map (fun db => db.spec.follows "d"),
          (cd'.roundTrip.dbs["ddd"]?).map (fun db => db.spec.follows "d"),
          (cd'.roundTrip.dbs["d"]?).map (Keeper.unmanagedReplicationSlots ["hysteron_ddd"]))))
      = some ("d", [], some true, some true, some ["hysteron_ddd"]) := by
    decide +kernel
  rw [Option.map_eq_some_iff] at hrun
  obtain ⟨newcd, hcheck, hnewcd⟩ := hrun
  simp only [Prod.mk.injEq] at hnewcd
  obtain ⟨hmaster, hfollowers, hfollows, hstored, hunmanaged⟩ := hnewcd
  obtain ⟨s, s', cd, pis, hreach, -, hcluster, hupdate⟩ :=
    update_of_sampleReelected (by decide) hcheck
  have hfollower : newcd.Follower "d" "ddd" := ⟨by decide, hfollows⟩
  refine ⟨_, s, s', cd, newcd, pis, hreach, hcluster ▸ hphase, hupdate, hmaster, hfollowers,
    hfollower, ?_, ?_⟩
  . intro hmatch
    have hlisted := (hmatch.mem_iff "ddd").mpr hfollower
    rw [hfollowers] at hlisted
    cases hlisted
  . intro hmanaged
    obtain ⟨db, hdb, hslots⟩ := Option.map_eq_some_iff.mp hunmanaged
    apply hmanaged db hdb "ddd" ⟨by decide, hstored⟩ ["hysteron_ddd"]
    rw [hslots]
    decide

end Sample

end Sentinel
end Hysteron
