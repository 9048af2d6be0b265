import Hysteron.Cluster.Types

/-!
What the JSON document in the store keeps of the cluster data. Empty maps and slices whose field is
marked `omitempty` come back as nil, and a field that is not marshalled is lost.
-/

namespace Hysteron

def ClusterSpec.roundTrip (spec : ClusterSpec) : ClusterSpec :=
  { spec with
    pgParameters := FinMap.omitEmpty spec.pgParameters
    ignoreMasterReplicationSlotMatchers := Slice.omitEmpty spec.ignoreMasterReplicationSlotMatchers
    managedLogicalReplicationSlots := Slice.omitEmpty spec.managedLogicalReplicationSlots
  }

def DBSpec.roundTrip (spec : DBSpec) : DBSpec :=
  { spec with
    pgParameters := FinMap.omitEmpty spec.pgParameters
    ignoreReplicationSlotMatchers := Slice.omitEmpty spec.ignoreReplicationSlotMatchers
    managedLogicalReplicationSlots := Slice.omitEmpty spec.managedLogicalReplicationSlots
  }

def DBStatus.roundTrip (status : DBStatus) : DBStatus :=
  { status with
    pgParameters := FinMap.omitEmpty status.pgParameters
    orphanMemberSlots := FinMap.omitEmpty status.orphanMemberSlots
    managedLogicalSlots := FinMap.omitEmpty status.managedLogicalSlots
    curSynchronousStandbys := none
  }

def DB.roundTrip (db : DB) : DB :=
  { db with spec := db.spec.roundTrip, status := db.status.roundTrip }

def Proxy.roundTrip (proxy : Proxy) : Proxy :=
  { proxy with
    spec := { proxy.spec with enabledProxies := Slice.omitEmpty proxy.spec.enabledProxies }
  }

def ClusterData.roundTrip (cd : ClusterData) : ClusterData :=
  { cd with
    cluster := { cd.cluster with spec := cd.cluster.spec.roundTrip }
    dbs := cd.dbs.map (fun _ db => db.roundTrip)
    proxy := Proxy.roundTrip cd.proxy
  }

def PostgresState.roundTrip (state : PostgresState) : PostgresState :=
  { state with
    pgParameters := FinMap.omitEmpty state.pgParameters
    managedLogicalSlots := FinMap.omitEmpty state.managedLogicalSlots
  }

def KeeperInfo.roundTrip (ki : KeeperInfo) : KeeperInfo :=
  { ki with postgresState := ki.postgresState.map PostgresState.roundTrip }

@[simp]
theorem DBSpec.roundTrip_roundTrip (spec : DBSpec) : spec.roundTrip.roundTrip = spec.roundTrip := by
  simp [DBSpec.roundTrip]

@[simp]
theorem DBStatus.roundTrip_roundTrip (status : DBStatus)
    : status.roundTrip.roundTrip = status.roundTrip := by
  simp [DBStatus.roundTrip]

@[simp]
theorem ClusterSpec.roundTrip_roundTrip (spec : ClusterSpec)
    : spec.roundTrip.roundTrip = spec.roundTrip := by
  simp [ClusterSpec.roundTrip]

@[simp]
theorem DB.roundTrip_roundTrip (db : DB) : db.roundTrip.roundTrip = db.roundTrip := by
  simp [DB.roundTrip]

theorem DBSpec.roundTrip_eq_iff {spec : DBSpec}
    : spec.roundTrip = spec
        ↔
      FinMap.omitEmpty spec.pgParameters = spec.pgParameters
        ∧
      Slice.omitEmpty spec.ignoreReplicationSlotMatchers = spec.ignoreReplicationSlotMatchers
        ∧
      Slice.omitEmpty spec.managedLogicalReplicationSlots = spec.managedLogicalReplicationSlots := by
  constructor
  . intro h
    exact ⟨congrArg DBSpec.pgParameters h, congrArg DBSpec.ignoreReplicationSlotMatchers h,
      congrArg DBSpec.managedLogicalReplicationSlots h⟩
  . rintro ⟨hparameters, hmatchers, hslots⟩
    rw [roundTrip, hparameters, hmatchers, hslots]

theorem ClusterSpec.roundTrip_eq_iff {spec : ClusterSpec}
    : spec.roundTrip = spec
        ↔
      FinMap.omitEmpty spec.pgParameters = spec.pgParameters
        ∧
      Slice.omitEmpty spec.ignoreMasterReplicationSlotMatchers
        = spec.ignoreMasterReplicationSlotMatchers
        ∧
      Slice.omitEmpty spec.managedLogicalReplicationSlots = spec.managedLogicalReplicationSlots := by
  constructor
  . intro h
    exact ⟨congrArg ClusterSpec.pgParameters h,
      congrArg ClusterSpec.ignoreMasterReplicationSlotMatchers h,
      congrArg ClusterSpec.managedLogicalReplicationSlots h⟩
  . rintro ⟨hparameters, hmatchers, hslots⟩
    rw [roundTrip, hparameters, hmatchers, hslots]

end Hysteron
