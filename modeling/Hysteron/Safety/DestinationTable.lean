import Hysteron.Proxy.TcpProxy

/-!
The destination table over any sequence of calls: its keys are the round-robin order, its channels are
closed once and exactly when their destination leaves, and picks take turns.
-/

namespace Hysteron
namespace TcpProxy

variable {Addr : Type} {text : Addr → String} {order : VisitOrder String} {p p' : Proxy Addr}

theorem sameDestinationSet_iff (a b : List String) : sameDestinationSet a b = true ↔ a = b := by
  induction a generalizing b with
  | nil => cases b <;> simp [sameDestinationSet]
  | cons x a ih =>
    cases b with
    | nil => simp [sameDestinationSet]
    | cons y b =>
      rw [List.cons.injEq, ← ih b]
      by_cases hlength : a.length = b.length
      all_goals simp [sameDestinationSet, hlength]

/-! ## Closing channels -/

theorem closeChannels_eq_some {closed channels : List Nat} (hnodup : channels.Nodup)
    (hopen : ∀ channel ∈ channels, channel ∉ closed)
    : closeChannels closed channels = some (channels.reverse ++ closed) := by
  induction channels generalizing closed with
  | nil => rfl
  | cons channel rest ih =>
    rw [List.nodup_cons] at hnodup
    have hfirst := hopen channel (.head rest)
    have hrest : ∀ other ∈ rest, other ∉ channel :: closed := by
      intro other hother hmem
      rcases List.mem_cons.mp hmem with rfl | hmem
      . exact hnodup.1 hother
      . exact hopen other (.tail channel hother) hmem
    rw [closeChannels, if_neg hfirst, ih hnodup.2 hrest]
    simp

/-! ## The next table -/

section Tables

variable {table : FinMap String (Destination Addr)} {key : String} {d : Destination Addr}

theorem mem_of_getElem?_eq_some (h : table[key]? = some d) : key ∈ table :=
  Std.ExtTreeMap.mem_iff_isSome_getElem?.mpr (by simp [h])

theorem getElem?_eq_some_of_mem (h : key ∈ table) : ∃ d, table[key]? = some d :=
  Option.isSome_iff_exists.mp (Std.ExtTreeMap.mem_iff_isSome_getElem?.mp h)

theorem getElem?_insert_eq_some {key' : String} {d' : Destination Addr}
    (h : (table.insert key d)[key']? = some d')
    : key' = key ∧ d' = d ∨ key' ≠ key ∧ table[key']? = some d' := by
  simp only [Std.ExtTreeMap.getElem?_insert, compare_eq_iff_eq] at h
  split at h
  next heq => exact .inl ⟨heq.symm, (Option.some.inj h).symm⟩
  next hne => exact .inr ⟨fun heq => hne heq.symm, h⟩

end Tables

structure OwnChannels (table : FinMap String (Destination Addr)) (made : Nat) : Prop where
  injective : ∀ (key key' : String) (d d' : Destination Addr), table[key]? = some d →
    table[key']? = some d' → d.closeConns = d'.closeConns → key = key'
  lt : ∀ (key : String) (d : Destination Addr), table[key]? = some d → d.closeConns < made

structure Built (current : FinMap String (Destination Addr)) (made : Nat) (next : Next Addr)
    : Prop where
  keys : ∀ key, key ∈ next.destinations ↔ key ∈ next.order
  nodup : next.order.Nodup
  made_le : made ≤ next.made
  own : OwnChannels next.destinations next.made
  kept : ∀ (key : String) (d : Destination Addr), next.destinations[key]? = some d →
    current[key]? = some d ∨ current[key]? = none ∧ made ≤ d.closeConns
  installed : ∀ channel, made ≤ channel → channel < next.made →
    ∃ (key : String) (d : Destination Addr), next.destinations[key]? = some d ∧ d.closeConns = channel

section Build

variable {current : FinMap String (Destination Addr)} {made : Nat} {next : Next Addr}

theorem built_empty : Built current made { destinations := ∅, order := [], made } where
  keys := by simp
  nodup := List.nodup_nil
  made_le := le_refl _
  own := ⟨by simp, by simp⟩
  kept := by simp
  installed := by
    intro channel hle hlt
    exact absurd hlt (not_lt.mpr hle)

theorem OwnChannels.insert {table : FinMap String (Destination Addr)} (h : OwnChannels table made)
    {made' : Nat} (hmade : made ≤ made') {key : String} {d : Destination Addr}
    (hlt : d.closeConns < made')
    (hnew : ∀ (key' : String) (d' : Destination Addr), table[key']? = some d' →
      d'.closeConns ≠ d.closeConns)
    : OwnChannels (table.insert key d) made' where
  injective := by
    intro k k' e e' he he' heq
    obtain ⟨rfl, rfl⟩ | ⟨-, hold⟩ := getElem?_insert_eq_some he
    . obtain ⟨rfl, -⟩ | ⟨-, hold'⟩ := getElem?_insert_eq_some he'
      . rfl
      . exact absurd heq.symm (hnew k' e' hold')
    . obtain ⟨rfl, rfl⟩ | ⟨-, hold'⟩ := getElem?_insert_eq_some he'
      . exact absurd heq (hnew k e hold)
      . exact h.injective k k' e e' hold hold' heq
  lt := by
    intro k e he
    obtain ⟨rfl, rfl⟩ | ⟨-, he⟩ := getElem?_insert_eq_some he
    . exact hlt
    . exact lt_of_lt_of_le (h.lt k e he) hmade

theorem Built.insert (h : Built current made next) (hcurrent : OwnChannels current made) {key : String}
    (hkey : key ∉ next.destinations) {d : Destination Addr} {made' : Nat}
    (hd : current[key]? = some d ∧ made' = next.made
      ∨ current[key]? = none ∧ d.closeConns = next.made ∧ made' = next.made + 1)
    : Built current made
        { destinations := next.destinations.insert key d, order := next.order ++ [key], made := made' }
    where
  keys := by
    intro k
    rw [Std.ExtTreeMap.mem_insert, compare_eq_iff_eq, h.keys, List.mem_append, List.mem_singleton]
    constructor
    . rintro (rfl | hk)
      . exact .inr rfl
      . exact .inl hk
    . rintro (hk | rfl)
      . exact .inr hk
      . exact .inl rfl
  nodup := by
    rw [h.keys] at hkey
    rw [List.nodup_append]
    refine ⟨h.nodup, List.nodup_singleton key, ?_⟩
    intro k hk k' hk'
    rw [List.mem_singleton] at hk'
    rintro rfl
    exact hkey (hk' ▸ hk)
  made_le := by
    have := h.made_le
    obtain ⟨-, rfl⟩ | ⟨-, -, rfl⟩ := hd
    . exact this
    . exact Nat.le_succ_of_le this
  own := by
    obtain ⟨hold, rfl⟩ | ⟨hnone, hchannel, rfl⟩ := hd
    . apply h.own.insert (le_refl _) (lt_of_lt_of_le (hcurrent.lt key d hold) h.made_le)
      intro k e he heq
      obtain hk | ⟨-, hge⟩ := h.kept k e he
      . have : k = key := hcurrent.injective k key e d hk hold heq
        exact hkey (this ▸ mem_of_getElem?_eq_some he)
      . exact absurd (hcurrent.lt key d hold) (not_lt.mpr (heq ▸ hge))
    . apply h.own.insert (Nat.le_succ _) (by omega)
      intro k e he heq
      exact absurd (h.own.lt k e he) (by omega)
  kept := by
    intro k e he
    obtain ⟨rfl, rfl⟩ | ⟨-, he⟩ := getElem?_insert_eq_some he
    . obtain ⟨hold, -⟩ | ⟨hnone, hchannel, -⟩ := hd
      . exact .inl hold
      . exact .inr ⟨hnone, hchannel ▸ h.made_le⟩
    . exact h.kept k e he
  installed := by
    intro channel hle hlt
    have hkeep : channel < next.made →
        ∃ (k : String) (e : Destination Addr),
          (next.destinations.insert key d)[k]? = some e ∧ e.closeConns = channel := by
      intro hlt
      obtain ⟨k, e, he, hchannel⟩ := h.installed channel hle hlt
      have hne : key ≠ k := by
        rintro rfl
        exact hkey (mem_of_getElem?_eq_some he)
      refine ⟨k, e, ?_, hchannel⟩
      simp only [Std.ExtTreeMap.getElem?_insert, compare_eq_iff_eq, hne, ↓reduceIte, he]
    obtain ⟨-, rfl⟩ | ⟨-, hchannel, rfl⟩ := hd
    . exact hkeep hlt
    . rcases Nat.lt_succ_iff_lt_or_eq.mp hlt with hlt | heq
      . exact hkeep hlt
      . exact ⟨key, d, by simp, hchannel.trans heq.symm⟩

theorem Built.addDestination (h : Built current made next) (hcurrent : OwnChannels current made)
    (addr : Option Addr) : Built current made (addDestination text current next addr) := by
  unfold TcpProxy.addDestination
  split
  next => exact h
  next addr =>
    dsimp only
    split
    next => exact h
    next hkey =>
      split
      next existing hold => exact h.insert hcurrent hkey (.inl ⟨hold, rfl⟩)
      next hnone => exact h.insert hcurrent hkey (.inr ⟨hnone, rfl, rfl⟩)

theorem Built.foldl (h : Built current made next) (hcurrent : OwnChannels current made)
    (addrs : List (Option Addr))
    : Built current made (addrs.foldl (TcpProxy.addDestination text current) next) := by
  induction addrs generalizing next with
  | nil => exact h
  | cons addr addrs ih => exact ih (h.addDestination hcurrent addr)

end Build

/-! ## The invariant -/

def InTable (p : Proxy Addr) (channel : Nat) : Prop :=
  ∃ (key : String) (d : Destination Addr), p.destinations[key]? = some d ∧ d.closeConns = channel

structure Consistent (p : Proxy Addr) : Prop where
  keys : ∀ key, key ∈ p.destinations ↔ key ∈ p.destinationOrder
  nodup : p.destinationOrder.Nodup
  next : p.nextDestination = 0 ∨ p.nextDestination < p.destinationOrder.length
  own : OwnChannels p.destinations p.made
  closed_nodup : p.closed.Nodup
  closed_iff : ∀ channel, channel ∈ p.closed ↔ channel < p.made ∧ ¬ InTable p channel

theorem consistent_new : Consistent (new : Proxy Addr) where
  keys := by simp [new]
  nodup := List.nodup_nil
  next := .inl rfl
  own := ⟨by simp [new], by simp [new]⟩
  closed_nodup := List.nodup_nil
  closed_iff := by simp [new]

theorem Consistent.getElem?_eq_some (h : Consistent p) {key : String}
    (hkey : key ∈ p.destinationOrder) : ∃ d, p.destinations[key]? = some d := by
  rw [← h.keys] at hkey
  exact getElem?_eq_some_of_mem hkey

/-! ## Removed destinations -/

section Removed

variable {next : FinMap String (Destination Addr)}

theorem mem_removedChannels {channel : Nat}
    : channel ∈ removedChannels order p.destinations next
        ↔
      ∃ (key : String) (d : Destination Addr),
        key ∉ next ∧ p.destinations[key]? = some d ∧ d.closeConns = channel := by
  simp only [removedChannels, List.mem_filterMap, VisitOrder.mem_visit, Std.ExtTreeMap.mem_keys]
  constructor
  . rintro ⟨key, -, h⟩
    split at h
    next => cases h
    next hkey =>
      obtain ⟨d, hd, hchannel⟩ := Option.map_eq_some_iff.mp h
      exact ⟨key, d, hkey, hd, hchannel⟩
  . rintro ⟨key, d, hkey, hd, hchannel⟩
    exact ⟨key, mem_of_getElem?_eq_some hd, by simp [hkey, hd, hchannel]⟩

theorem nodup_removedChannels (h : OwnChannels p.destinations made)
    : (removedChannels order p.destinations next).Nodup := by
  apply List.Nodup.filterMap
  . intro key key' channel hkey hkey'
    split at hkey
    next => cases hkey
    next =>
      split at hkey'
      next => cases hkey'
      next =>
        obtain ⟨d, hd, hchannel⟩ := Option.map_eq_some_iff.mp hkey
        obtain ⟨d', hd', hchannel'⟩ := Option.map_eq_some_iff.mp hkey'
        exact h.injective key key' d d' hd hd' (hchannel.trans hchannel'.symm)
  . exact order.nodup_visit Std.ExtTreeMap.nodup_keys

theorem Consistent.closeChannels_eq (h : Consistent p)
    : closeChannels p.closed (removedChannels order p.destinations next)
        =
      some ((removedChannels order p.destinations next).reverse ++ p.closed) := by
  apply closeChannels_eq_some (nodup_removedChannels h.own)
  intro channel hremoved hclosed
  obtain ⟨key, d, -, hd, hchannel⟩ := mem_removedChannels.mp hremoved
  exact ((h.closed_iff channel).mp hclosed).2 ⟨key, d, hd, hchannel⟩

theorem Consistent.replace (h : Consistent p) {order' : List String} {made : Nat}
    (hbuilt : Built p.destinations p.made { destinations := next, order := order', made })
    {nextDestination : Nat} (hnext : nextDestination = 0 ∨ nextDestination < order'.length)
    {stopped : Bool}
    : Consistent
        { destinations := next
          destinationOrder := order'
          nextDestination
          stopped
          made
          closed := (removedChannels order p.destinations next).reverse ++ p.closed } where
  keys := hbuilt.keys
  nodup := hbuilt.nodup
  next := hnext
  own := hbuilt.own
  closed_nodup := by
    rw [List.nodup_append]
    refine ⟨List.nodup_reverse.mpr (nodup_removedChannels h.own), h.closed_nodup, ?_⟩
    rintro channel hremoved channel' hclosed rfl
    obtain ⟨key, d, -, hd, hchannel⟩ := mem_removedChannels.mp (List.mem_reverse.mp hremoved)
    exact ((h.closed_iff channel).mp hclosed).2 ⟨key, d, hd, hchannel⟩
  closed_iff := by
    intro channel
    have hmade : p.made ≤ made := hbuilt.made_le
    rw [List.mem_append, List.mem_reverse, mem_removedChannels]
    constructor
    . rintro (⟨key, d, hkey, hd, rfl⟩ | hclosed)
      . refine ⟨lt_of_lt_of_le (h.own.lt key d hd) hmade, ?_⟩
        rintro ⟨key', d', hd', hchannel⟩
        obtain hold | ⟨-, hge⟩ := hbuilt.kept key' d' hd'
        . have hsame := h.own.injective key' key d' d hold hd hchannel
          exact hkey (hsame ▸ mem_of_getElem?_eq_some hd')
        . exact absurd (h.own.lt key d hd) (not_lt.mpr (hchannel ▸ hge))
      . obtain ⟨hlt, hout⟩ := (h.closed_iff channel).mp hclosed
        refine ⟨lt_of_lt_of_le hlt hmade, ?_⟩
        rintro ⟨key', d', hd', hchannel⟩
        obtain hold | ⟨-, hge⟩ := hbuilt.kept key' d' hd'
        . exact hout ⟨key', d', hold, hchannel⟩
        . exact absurd hlt (not_lt.mpr (hchannel ▸ hge))
    . rintro ⟨hlt, hout⟩
      -- A channel that the next table does not have is not new.
      have hlt : channel < p.made := by
        by_contra hge
        exact hout (hbuilt.installed channel (not_lt.mp hge) hlt)
      by_cases hin : InTable p channel
      . obtain ⟨key, d, hd, hchannel⟩ := hin
        refine .inl ⟨key, d, ?_, hd, hchannel⟩
        intro hkey
        obtain ⟨d', hd'⟩ := getElem?_eq_some_of_mem hkey
        obtain hold | ⟨hnone, -⟩ := hbuilt.kept key d' hd'
        . obtain rfl : d' = d := Option.some.inj (hold.symm.trans hd)
          exact hout ⟨key, d', hd', hchannel⟩
        . simp [hd] at hnone
      . exact .inr ((h.closed_iff channel).mpr ⟨hlt, hin⟩)

end Removed

/-! ## One call -/

structure Advance (p p' : Proxy Addr) : Prop where
  consistent : Consistent p'
  retained : ∀ (key : String) (d : Destination Addr), p.destinations[key]? = some d →
    key ∈ p'.destinations → p'.destinations[key]? = some d
  made_le : p.made ≤ p'.made
  closed_lt : ∀ channel ∈ p'.closed, channel < p.made

theorem Consistent.advance_refl (h : Consistent p) : Advance p p where
  consistent := h
  retained := fun _ _ hd _ => hd
  made_le := le_refl _
  closed_lt := fun channel hclosed => ((h.closed_iff channel).mp hclosed).1

theorem Consistent.advance_replace (h : Consistent p) {next : Next Addr}
    (hbuilt : Built p.destinations p.made next) {nextDestination : Nat}
    (hnext : nextDestination = 0 ∨ nextDestination < next.order.length) (order : VisitOrder String)
    (stopped : Bool)
    : Advance p
        { destinations := next.destinations
          destinationOrder := next.order
          nextDestination
          stopped
          made := next.made
          closed := (removedChannels order p.destinations next.destinations).reverse ++ p.closed } where
  consistent := h.replace hbuilt hnext
  retained := by
    intro key d hd hkey
    obtain ⟨d', hd'⟩ := getElem?_eq_some_of_mem hkey
    obtain hold | ⟨hnone, -⟩ := hbuilt.kept key d' hd'
    . rw [hd', ← hold, hd]
    . simp [hd] at hnone
  made_le := hbuilt.made_le
  closed_lt := by
    intro channel hclosed
    rw [List.mem_append, List.mem_reverse, mem_removedChannels] at hclosed
    obtain ⟨key, d, -, hd, rfl⟩ | hclosed := hclosed
    . exact h.own.lt key d hd
    . exact ((h.closed_iff channel).mp hclosed).1

theorem Consistent.made_eq_of_same (h : Consistent p) {next : Next Addr}
    (hbuilt : Built p.destinations p.made next) (hsame : p.destinationOrder = next.order)
    : next.made = p.made := by
  by_contra hne
  have hlt : p.made < next.made := lt_of_le_of_ne hbuilt.made_le (Ne.symm hne)
  obtain ⟨key, d, hd, hchannel⟩ := hbuilt.installed p.made (le_refl _) hlt
  have hkey : key ∈ p.destinationOrder := by
    rw [hsame, ← hbuilt.keys]
    exact mem_of_getElem?_eq_some hd
  obtain hold | ⟨hnone, -⟩ := hbuilt.kept key d hd
  . exact absurd (h.own.lt key d hold) (by omega)
  . obtain ⟨d', hd'⟩ := h.getElem?_eq_some hkey
    simp [hd'] at hnone

theorem Consistent.setDestinations (h : Consistent p) (addrs : List (Option Addr))
    : ∃ p', setDestinations text order p addrs = some p' ∧ Advance p p'
        ∧ (p' = p ∨ p'.destinationOrder ≠ p.destinationOrder) := by
  have hbuilt : Built p.destinations p.made
      (addrs.foldl (addDestination text p.destinations)
        { destinations := ∅, order := [], made := p.made }) :=
    built_empty.foldl h.own addrs
  unfold TcpProxy.setDestinations
  dsimp only
  generalize addrs.foldl (addDestination text p.destinations)
    { destinations := ∅, order := [], made := p.made } = next at hbuilt ⊢
  by_cases hsame : sameDestinationSet p.destinationOrder next.order = true
  . have hmade := h.made_eq_of_same hbuilt ((sameDestinationSet_iff _ _).mp hsame)
    refine ⟨p, ?_, h.advance_refl, .inl rfl⟩
    simp [hsame, hmade]
  . have hnext : (if next.order.length = 0 then 0 else p.nextDestination % next.order.length) = 0
        ∨ (if next.order.length = 0 then 0 else p.nextDestination % next.order.length)
          < next.order.length := by
      split
      next => exact .inl rfl
      next hne => exact .inr (Nat.mod_lt _ (Nat.pos_of_ne_zero hne))
    refine ⟨_, ?_, h.advance_replace hbuilt hnext order p.stopped, .inr ?_⟩
    . rw [if_neg hsame, h.closeChannels_eq]
      rfl
    . intro heq
      exact hsame ((sameDestinationSet_iff _ _).mpr heq.symm)

theorem Consistent.stop (h : Consistent p) (order : VisitOrder String)
    : ∃ p', stop order p = some p' ∧ Advance p p'
        ∧ (p' = p ∨ p'.destinationOrder = []) := by
  unfold TcpProxy.stop
  by_cases hstopped : p.stopped = true
  . exact ⟨p, by simp [hstopped], h.advance_refl, .inl rfl⟩
  . refine ⟨_, ?_, h.advance_replace built_empty (.inl rfl) order true, .inr rfl⟩
    rw [if_neg hstopped, h.closeChannels_eq]
    rfl

def turn (p : Proxy Addr) (i : Nat) : Option (Destination Addr) :=
  p.destinationOrder[(p.nextDestination + i) % p.destinationOrder.length]?.bind
    (fun key => p.destinations[key]?)

theorem Consistent.destination (h : Consistent p) (hne : p.destinationOrder ≠ [])
    : destination p
        =
      some ({ p with nextDestination := (p.nextDestination + 1) % p.destinationOrder.length },
        turn p 0) := by
  have hpos : 0 < p.destinationOrder.length := List.length_pos_iff.mpr hne
  have hlt := Nat.mod_lt p.nextDestination hpos
  have hkey := List.getElem?_eq_getElem hlt
  obtain ⟨d, hd⟩ := h.getElem?_eq_some (List.getElem_mem hlt)
  unfold TcpProxy.destination
  rw [if_neg (by omega)]
  simp [turn, hkey, hd]

theorem Consistent.advance_turn (h : Consistent p) (hne : p.destinationOrder ≠ [])
    : Advance p { p with nextDestination := (p.nextDestination + 1) % p.destinationOrder.length } where
  consistent :=
    { h with next := .inr (Nat.mod_lt _ (List.length_pos_iff.mpr hne)) }
  retained := fun _ _ hd _ => hd
  made_le := le_refl _
  closed_lt := fun channel hclosed => ((h.closed_iff channel).mp hclosed).1

inductive Turns (p p' : Proxy Addr) (picks : List (Option (Destination Addr))) : Prop where
  | same (h : p' = p) (hpicks : picks = [])
  | nothing (h : p.destinationOrder = [])
  | changed (h : p'.destinationOrder ≠ p.destinationOrder)
  | pick (h : p' = { p with nextDestination := (p.nextDestination + 1) % p.destinationOrder.length })
    (hpicks : picks = [turn p 0])

theorem Consistent.call (h : Consistent p) (text : Addr → String) (order : VisitOrder String)
    (c : Call Addr)
    : ∃ p' picks, call text p order c = some (p', picks) ∧ Advance p p' ∧ Turns p p' picks := by
  have hset (addrs : List (Option Addr))
      : ∃ p', TcpProxy.setDestinations text order p addrs = some p' ∧ Advance p p' ∧ Turns p p' [] := by
    obtain ⟨p', hp', hadvance, hsame | hchanged⟩ := h.setDestinations addrs
    . exact ⟨p', hp', hadvance, .same hsame rfl⟩
    . exact ⟨p', hp', hadvance, .changed hchanged⟩
  cases c with
  | setDestination addr =>
    cases addr with
    | none =>
      obtain ⟨p', hp', hadvance, hturns⟩ := hset []
      exact ⟨p', [], by simp [TcpProxy.call, setDestination, hp'], hadvance, hturns⟩
    | some addr =>
      obtain ⟨p', hp', hadvance, hturns⟩ := hset [some addr]
      exact ⟨p', [], by simp [TcpProxy.call, setDestination, hp'], hadvance, hturns⟩
  | setDestinations addrs =>
    obtain ⟨p', hp', hadvance, hturns⟩ := hset addrs
    exact ⟨p', [], by simp [TcpProxy.call, hp'], hadvance, hturns⟩
  | stop =>
    obtain ⟨p', hp', hadvance, hsame | hempty⟩ := h.stop order
    . exact ⟨p', [], by simp [TcpProxy.call, hp'], hadvance, .same hsame rfl⟩
    . refine ⟨p', [], by simp [TcpProxy.call, hp'], hadvance, ?_⟩
      by_cases hne : p.destinationOrder = []
      . exact .nothing hne
      . exact .changed (fun heq => hne (heq.symm.trans hempty))
  | destination =>
    by_cases hne : p.destinationOrder = []
    . refine ⟨p, [none], ?_, h.advance_refl, .nothing hne⟩
      simp [TcpProxy.call, TcpProxy.destination, hne]
    . refine ⟨_, _, ?_, h.advance_turn hne, .pick rfl rfl⟩
      simp [TcpProxy.call, h.destination hne]

/-! ## Runs -/

section Runs

variable {calls front back : List (VisitOrder String × Call Addr)}
variable {picks : List (Option (Destination Addr))}

theorem run_append_eq_some
    : run text p (front ++ back) = some (p', picks)
        ↔
      ∃ p₁ first others, run text p front = some (p₁, first) ∧ run text p₁ back = some (p', others)
        ∧ picks = first ++ others := by
  induction front generalizing p picks with
  | nil => simp [run]
  | cons c front ih =>
    simp only [List.cons_append, run, Option.bind_eq_bind, Option.bind_eq_some_iff, Option.pure_def,
      Option.some.injEq, Prod.mk.injEq, Prod.exists]
    constructor
    . rintro ⟨p₁, first, hcall, p₂, others, hrest, rfl, rfl⟩
      obtain ⟨p₃, middle, last, hfront, hback, rfl⟩ := ih.mp hrest
      exact ⟨p₃, first ++ middle, last, ⟨p₁, first, hcall, p₃, middle, hfront, rfl, rfl⟩, hback,
        (List.append_assoc ..).symm⟩
    . rintro ⟨p₃, both, last, ⟨p₁, first, hcall, p₂, middle, hfront, rfl, rfl⟩, hback, rfl⟩
      exact ⟨p₁, first, hcall, p', middle ++ last, ih.mpr ⟨p₂, middle, last, hfront, hback, rfl⟩, rfl,
        (List.append_assoc ..).symm⟩

theorem run_singleton {c : VisitOrder String × Call Addr}
    : run text p [c] = call text p c.1 c.2 := by
  cases hcall : call text p c.1 c.2 <;> simp [run, hcall]

theorem Consistent.run (h : Consistent p) (text : Addr → String)
    (calls : List (VisitOrder String × Call Addr))
    : ∃ p' picks, run text p calls = some (p', picks) ∧ Consistent p' := by
  induction calls generalizing p with
  | nil => exact ⟨p, [], rfl, h⟩
  | cons c calls ih =>
    obtain ⟨p₁, first, hcall, hadvance, -⟩ := h.call text c.1 c.2
    obtain ⟨p', others, hrun, hconsistent⟩ := ih hadvance.consistent
    exact ⟨p', first ++ others, by simp [TcpProxy.run, hcall, hrun], hconsistent⟩

def WasInTable (text : Addr → String) (calls : List (VisitOrder String × Call Addr)) (channel : Nat)
    : Prop :=
  ∃ (front back : List (VisitOrder String × Call Addr)) (p : Proxy Addr)
      (picks : List (Option (Destination Addr))),
    calls = front ++ back ∧ run text new front = some (p, picks) ∧ InTable p channel

theorem WasInTable.append {channel : Nat} (h : WasInTable text front channel)
    : WasInTable text (front ++ back) channel := by
  obtain ⟨front₁, back₁, p, picks, rfl, hrun, hin⟩ := h
  exact ⟨front₁, back₁ ++ back, p, picks, List.append_assoc .., hrun, hin⟩

theorem InTable.wasInTable {channel : Nat} (h : InTable p channel)
    (hrun : run text new calls = some (p, picks)) : WasInTable text calls channel :=
  ⟨calls, [], p, picks, (List.append_nil calls).symm, hrun, h⟩

theorem wasInTable_of_lt (hrun : run text new calls = some (p, picks)) {channel : Nat}
    (hlt : channel < p.made) : WasInTable text calls channel := by
  induction calls using List.reverseRecOn generalizing p picks with
  | nil =>
    obtain ⟨rfl, -⟩ := Prod.mk.inj (Option.some.inj hrun)
    exact absurd hlt (Nat.not_lt_zero _)
  | append_singleton front c ih =>
    obtain ⟨p₁, picks₁, hfront, hconsistent⟩ := consistent_new.run text front
    obtain ⟨p₂, picks₂, hcall, hadvance, -⟩ := hconsistent.call text c.1 c.2
    have hlast : run text new (front ++ [c]) = some (p₂, picks₁ ++ picks₂) :=
      run_append_eq_some.mpr ⟨p₁, picks₁, picks₂, hfront, run_singleton.trans hcall, rfl⟩
    obtain ⟨rfl, -⟩ := Prod.mk.inj (Option.some.inj (hlast.symm.trans hrun))
    by_cases hold : channel < p₁.made
    . exact (ih hfront hold).append
    . -- A new channel is not closed, so it belongs to the table.
      have hin : InTable p₂ channel := by
        by_contra hout
        exact hold (hadvance.closed_lt channel
          ((hadvance.consistent.closed_iff channel).mpr ⟨hlt, hout⟩))
      exact hin.wasInTable hlast

theorem Consistent.run_cons (h : Consistent p) {c : VisitOrder String × Call Addr}
    (hrun : TcpProxy.run text p (c :: calls) = some (p', picks))
    : ∃ p₁ first others, TcpProxy.call text p c.1 c.2 = some (p₁, first) ∧ Advance p p₁
        ∧ Turns p p₁ first ∧ TcpProxy.run text p₁ calls = some (p', others)
        ∧ picks = first ++ others := by
  obtain ⟨p₁, first, others, hfirst, hothers, hpicks⟩ := run_append_eq_some.mp
    (show TcpProxy.run text p ([c] ++ calls) = some (p', picks) from hrun)
  obtain ⟨p₂, picks₂, hcall, hadvance, hturns⟩ := h.call text c.1 c.2
  rw [run_singleton, hcall] at hfirst
  obtain ⟨rfl, rfl⟩ := Prod.mk.inj (Option.some.inj hfirst)
  exact ⟨p₂, picks₂, others, hcall, hadvance, hturns, hothers, hpicks⟩

theorem Consistent.made_le_of_run (h : Consistent p)
    (hrun : TcpProxy.run text p calls = some (p', picks)) : p.made ≤ p'.made := by
  induction calls generalizing p picks with
  | nil =>
    obtain ⟨rfl, -⟩ := Prod.mk.inj (Option.some.inj hrun)
    exact le_refl _
  | cons c calls ih =>
    obtain ⟨p₁, -, others, -, hadvance, -, hothers, -⟩ := h.run_cons hrun
    exact hadvance.made_le.trans (ih hadvance.consistent hothers)

theorem WasInTable.lt_made {channel : Nat} (h : WasInTable text calls channel)
    (hrun : run text new calls = some (p, picks)) : channel < p.made := by
  obtain ⟨front, back, p₁, picks₁, rfl, hfront, key, d, hd, rfl⟩ := h
  obtain ⟨p₂, first, others, hfirst, hothers, -⟩ := run_append_eq_some.mp hrun
  obtain ⟨rfl, -⟩ := Prod.mk.inj (Option.some.inj (hfront.symm.trans hfirst))
  obtain ⟨p₃, picks₃, hfront', hconsistent⟩ := consistent_new.run text front
  obtain ⟨rfl, -⟩ := Prod.mk.inj (Option.some.inj (hfront.symm.trans hfront'))
  exact lt_of_lt_of_le (hconsistent.own.lt key d hd) (hconsistent.made_le_of_run hothers)

def Steady (text : Addr → String) (p : Proxy Addr) (calls : List (VisitOrder String × Call Addr))
    : Prop :=
  ∀ (front back : List (VisitOrder String × Call Addr)) (p' : Proxy Addr)
      (picks : List (Option (Destination Addr))),
    calls = front ++ back → run text p front = some (p', picks) →
    p'.destinationOrder = p.destinationOrder

theorem Steady.tail {c : VisitOrder String × Call Addr} (h : Steady text p (c :: calls))
    (hcall : call text p c.1 c.2 = some (p', picks))
    : p'.destinationOrder = p.destinationOrder ∧ Steady text p' calls := by
  have hfirst : p'.destinationOrder = p.destinationOrder :=
    h [c] calls p' (picks ++ []) rfl (by simp [run, hcall])
  refine ⟨hfirst, ?_⟩
  rintro front back p₂ picks₂ rfl hrun
  rw [hfirst]
  exact h (c :: front) back p₂ (picks ++ picks₂) rfl (by simp [run, hcall, hrun])

theorem turn_succ (p : Proxy Addr)
    : turn { p with nextDestination := (p.nextDestination + 1) % p.destinationOrder.length }
        =
      fun i => turn p (i + 1) := by
  funext i
  have hindex : ((p.nextDestination + 1) % p.destinationOrder.length + i) % p.destinationOrder.length
      = (p.nextDestination + (i + 1)) % p.destinationOrder.length := by
    rw [Nat.mod_add_mod, Nat.add_assoc, Nat.add_comm 1 i]
  simp only [turn, hindex]

theorem Consistent.picks_eq_turns (h : Consistent p) (hne : p.destinationOrder ≠ [])
    (hsteady : Steady text p calls) (hrun : TcpProxy.run text p calls = some (p', picks))
    : picks = (List.range picks.length).map (turn p) := by
  induction calls generalizing p picks with
  | nil =>
    obtain ⟨-, rfl⟩ := Prod.mk.inj (Option.some.inj hrun)
    rfl
  | cons c calls ih =>
    obtain ⟨p₁, first, others, hcall, hadvance, hturns, hothers, rfl⟩ := h.run_cons hrun
    obtain ⟨horder, hsteady⟩ := hsteady.tail hcall
    have hrest := ih hadvance.consistent (horder ▸ hne) hsteady hothers
    cases hturns with
    | same hp hpicks =>
      subst hp hpicks
      exact hrest
    | nothing hempty => exact absurd hempty hne
    | changed hchanged => exact absurd horder hchanged
    | pick hp hpicks =>
      subst hp hpicks
      rw [List.singleton_append, List.length_cons, List.range_succ_eq_map, List.map_cons, List.map_map]
      conv_lhs => rw [hrest, turn_succ]
      rfl

theorem map_turn_perm (p : Proxy Addr)
    : ((List.range p.destinationOrder.length).map (turn p)).Perm
        (p.destinationOrder.map (fun key => p.destinations[key]?)) := by
  have hrotate : (List.range p.destinationOrder.length).map (turn p)
      = (p.destinationOrder.rotate p.nextDestination).map (fun key => p.destinations[key]?) := by
    apply List.ext_getElem
    . simp
    . intro i hi hi'
      simp only [List.length_map, List.length_range] at hi
      have hlt : (i + p.nextDestination) % p.destinationOrder.length < p.destinationOrder.length :=
        Nat.mod_lt _ (by omega)
      rw [List.getElem_map, List.getElem_map, List.getElem_range, List.getElem_rotate, turn,
        Nat.add_comm, List.getElem?_eq_getElem hlt]
      rfl
  rw [hrotate]
  exact (List.rotate_perm _ _).map _

end Runs

/--
The table over any sequence of calls, whatever their addresses: nothing panics, its keys are the
entries of the order, a channel is closed once and exactly when its destination has left the table, a
call keeps the channels of the destinations that stay, and as many picks as there are destinations
return each of them once, until the table changes.
-/
theorem destination_table (text : Addr → String) (calls : List (VisitOrder String × Call Addr))
    : ∃ (p : Proxy Addr) (picks : List (Option (Destination Addr))),
        run text new calls = some (p, picks)
          ∧
        (∀ key, key ∈ p.destinations ↔ key ∈ p.destinationOrder)
          ∧
        p.destinationOrder.Nodup
          ∧
        (p.nextDestination = 0 ∨ p.nextDestination < p.destinationOrder.length)
          ∧
        p.closed.Nodup
          ∧
        (∀ channel, channel ∈ p.closed ↔ WasInTable text calls channel ∧ ¬ InTable p channel)
          ∧
        (∀ (order : VisitOrder String) (c : Call Addr), ∃ (p' : Proxy Addr)
            (more : List (Option (Destination Addr))),
          call text p order c = some (p', more)
            ∧
          ∀ (key : String) (d : Destination Addr), p.destinations[key]? = some d →
            key ∈ p'.destinations → p'.destinations[key]? = some d)
          ∧
        ∀ (later : List (VisitOrder String × Call Addr)) (p' : Proxy Addr)
            (more : List (Option (Destination Addr))),
          Steady text p later → run text p later = some (p', more) →
          more.length = p.destinationOrder.length →
          more.Perm (p.destinationOrder.map (fun key => p.destinations[key]?)) := by
  obtain ⟨p, picks, hrun, h⟩ := consistent_new.run text calls
  refine ⟨p, picks, hrun, h.keys, h.nodup, h.next, h.closed_nodup, ?_, ?_, ?_⟩
  . intro channel
    rw [h.closed_iff]
    constructor
    . rintro ⟨hlt, hout⟩
      exact ⟨wasInTable_of_lt hrun hlt, hout⟩
    . rintro ⟨hwas, hout⟩
      exact ⟨hwas.lt_made hrun, hout⟩
  . intro order c
    obtain ⟨p', more, hcall, hadvance, -⟩ := h.call text order c
    exact ⟨p', more, hcall, hadvance.retained⟩
  . intro later p' more hsteady hlater hlength
    by_cases hne : p.destinationOrder = []
    . have hempty : more = [] := List.length_eq_zero_iff.mp (by rw [hlength, hne, List.length_nil])
      rw [hempty, hne, List.map_nil]
    . rw [h.picks_eq_turns hne hsteady hlater, hlength]
      exact map_turn_perm p

example : (run id new [(.stored, .setDestinations [some "a", some "b", some "a"]),
      (.stored, .destination), (.stored, .destination), (.stored, .destination),
      (.stored, .setDestination (some "a"))]).map (fun r =>
        (r.1.destinationOrder, r.1.closed, r.2.map (Option.map Destination.addr)))
    = some (["a"], [1], [some "a", some "b", some "a"]) := by
  decide +kernel

end TcpProxy
end Hysteron
