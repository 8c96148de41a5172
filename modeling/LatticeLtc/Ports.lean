import LatticeLtc.Model

/-! # The port configuration

`getPortConfigFromArgs` decides the ports of the container. With no ports flag it takes the image
metadata's ports when the image declares some, and otherwise `8080`, monitored unless `--no-monitor`
is set. With a ports flag (`portConfigFromFlag`) it splits the flag at `,`; several pieces need a
monitored port unless `--no-monitor` is set; the pieces are sorted (`sort.Strings`) and converted one
by one with `Atoi` and the check `intPort > 65535` (`convertPort`); the monitored port is `uint16` of
the monitored-port flag when there are several pieces and the one port otherwise.

The range check lets a negative piece through, cast to `uint16`, and the monitored-port flag is cast
with no check at all (`getPortConfigFromArgs_accepts_out_of_range`).

* `convertPorts_eq`: the conversion loop converts every piece, or fails on the first bad one;
* `getPortConfigFromArgs_perm`: the order of the pieces of a ports flag does not matter;
* `getPortConfigFromArgs_portsFlagOf`: a flag written from a list of ports reads back as those ports,
  sorted by their decimal texts;
* `getPortConfigFromArgs_monitored`: the exposed ports are never empty, and where the monitored port
  comes from in each branch. -/

namespace LatticeLtc.Ports

open LatticeLtc.Go.Strings LatticeLtc.Go.Ints LatticeLtc.Model

variable {W : Type}

/-- The body of the conversion loop on one port string; `none` is the `InvalidPort` error. -/
def convertPort (p : Str) : Option UInt16 :=
  match atoi p with
  | some intPort => if intPort > 65535 then none else some (toUint16 intPort)
  | none => none

/-- The conversion loop over the sorted port strings, `convertedPorts` the ports so far. -/
def convertPorts : List Str → List UInt16 → Option (List UInt16)
  | [], convertedPorts => some convertedPorts
  | p :: portStrings, convertedPorts =>
    match convertPort p with
    | none => none
    | some port => convertPorts portStrings (convertedPorts ++ [port])

/-- The branch of `getPortConfigFromArgs` for a ports flag: the port configuration and the error. -/
def portConfigFromFlag (portsFlag : Str) (monitoredPortFlag : GoInt) (noMonitorFlag : Bool) :
    PortConfig × Option Str :=
  let portStrings := split ',' portsFlag
  if portStrings.length > 1 ∧ monitoredPortFlag.val = 0 ∧ noMonitorFlag = false then
    (⟨0, []⟩, some mustSetMonitoredPortErrorMessage)
  else
    match convertPorts (sortStrings portStrings) [] with
    | none => (⟨0, []⟩, some invalidPortErrorMessage)
    | some convertedPorts =>
      -- `convertedPorts[0]` exists: there is a port per port string, and at least one string
      let monitoredPort := if portStrings.length > 1 then toUint16 monitoredPortFlag.val
        else convertedPorts.headD 0
      (⟨monitoredPort, convertedPorts⟩, none)

/-- The notice written when the metadata's ports are used. -/
def metadataPortsNotice (portStrs : List Str) : Str :=
  "No port specified, using exposed ports from the image metadata.\n\tExposed Ports: ".toList ++
    join portStrs ", ".toList ++ "\n".toList

/-- The notice written when no port is declared anywhere. -/
def defaultPortNotice : Str :=
  "No port specified, image metadata did not contain exposed ports. Defaulting to 8080.\n".toList

/-- `getPortConfigFromArgs(portsFlag, monitoredPortFlag, noMonitorFlag, imageMetadata)`. -/
def getPortConfigFromArgs (portsFlag : Str) (monitoredPortFlag : GoInt) (noMonitorFlag : Bool)
    (imageMetadata : ImageMetadata) (s : Sys W) : (PortConfig × Option Str) × Sys W :=
  if portsFlag = [] ∧ imageMetadata.ports.isEmpty = false then
    let portStrs := imageMetadata.ports.exposed.map fun port => itoa port.toNat
    ((imageMetadata.ports, none), s.emit (.say (.plain (metadataPortsNotice portStrs))))
  else if portsFlag = [] ∧ imageMetadata.ports.isEmpty = true ∧ noMonitorFlag = true then
    ((⟨0, [8080]⟩, none), s)
  else if portsFlag = [] ∧ imageMetadata.ports.isEmpty = true then
    ((⟨8080, [8080]⟩, none), s.emit (.say (.plain defaultPortNotice)))
  else
    (portConfigFromFlag portsFlag monitoredPortFlag noMonitorFlag, s)

/-- The configuration does not depend on the run; only the notices are written to it. -/
theorem getPortConfigFromArgs_fst (portsFlag : Str) (m : GoInt) (nm : Bool) (meta : ImageMetadata)
    (s s' : Sys W) :
    (getPortConfigFromArgs portsFlag m nm meta s).1 = (getPortConfigFromArgs portsFlag m nm meta s').1 := by
  unfold getPortConfigFromArgs
  split_ifs <;> rfl

theorem getPortConfigFromArgs_world (portsFlag : Str) (m : GoInt) (nm : Bool) (meta : ImageMetadata)
    (s : Sys W) : (getPortConfigFromArgs portsFlag m nm meta s).2.world = s.world := by
  unfold getPortConfigFromArgs
  split_ifs <;> rfl

theorem getPortConfigFromArgs_extends (portsFlag : Str) (m : GoInt) (nm : Bool) (meta : ImageMetadata)
    (s : Sys W) : Sys.Extends (·.notice) s (getPortConfigFromArgs portsFlag m nm meta s).2 := by
  unfold getPortConfigFromArgs
  split_ifs <;> dsimp only
  · exact .emit (by rfl) s
  · exact .refl s
  · exact .emit (by rfl) s
  · exact .refl s

/-! ### The conversion loop -/

theorem convertPorts_eq (portStrings : List Str) (acc : List UInt16) :
    convertPorts portStrings acc =
      if ∀ p ∈ portStrings, convertPort p ≠ none then some (acc ++ portStrings.filterMap convertPort)
      else none := by
  induction portStrings generalizing acc with
  | nil => simp [convertPorts]
  | cons p portStrings ih => cases hp : convertPort p <;> simp [convertPorts, hp, ih]

/-- **The ports of a ports flag.** When the flag parses, the exposed ports are the converted sorted
pieces, one per piece, and the monitored port is `uint16` of the flag or the one port. -/
theorem portConfigFromFlag_eq_ok {portsFlag : Str} {m : GoInt} {nm : Bool} {pc : PortConfig}
    (h : portConfigFromFlag portsFlag m nm = (pc, none)) :
    List.Forall₂ (fun p port => convertPort p = some port) (sortStrings (split ',' portsFlag))
      pc.exposed ∧
    pc.monitored = (if 1 < (split ',' portsFlag).length then toUint16 m.val else pc.exposed.headD 0) ∧
    ¬(1 < (split ',' portsFlag).length ∧ m.val = 0 ∧ nm = false) := by
  simp only [portConfigFromFlag, convertPorts_eq] at h
  by_cases hm : (split ',' portsFlag).length > 1 ∧ m.val = 0 ∧ nm = false
  · simp [hm] at h
  by_cases hall : ∀ p ∈ sortStrings (split ',' portsFlag), convertPort p ≠ none
  · rw [if_neg hm, if_pos hall, List.nil_append] at h
    obtain ⟨rfl, -⟩ := Prod.mk.inj h
    exact ⟨forall₂_filterMap hall, rfl, hm⟩
  · simp [hm, hall] at h

theorem getPortConfigFromArgs_of_ne_nil {portsFlag : Str} (hp : portsFlag ≠ []) (m : GoInt) (nm : Bool)
    (meta : ImageMetadata) (s : Sys W) :
    getPortConfigFromArgs portsFlag m nm meta s = (portConfigFromFlag portsFlag m nm, s) := by
  simp [getPortConfigFromArgs, hp]

/-- `-1` is accepted as port `65535`, though the error message asks for integers between `0` and
`65535`; and with several ports the monitored-port flag is cast with no range check, so `65616`
monitors port `80` and `65536` wraps to `0`, which passes the check against `0`. -/
theorem getPortConfigFromArgs_accepts_out_of_range :
    (@getPortConfigFromArgs Unit "-1".toList ⟨0, by norm_num, by norm_num⟩ false
      ⟨[], [], ⟨0, []⟩⟩ ⟨(), []⟩).1 = (⟨65535, [65535]⟩, none) ∧
    (@getPortConfigFromArgs Unit "80,90".toList ⟨65616, by norm_num, by norm_num⟩ false
      ⟨[], [], ⟨0, []⟩⟩ ⟨(), []⟩).1 = (⟨80, [80, 90]⟩, none) ∧
    (@getPortConfigFromArgs Unit "80,90".toList ⟨65536, by norm_num, by norm_num⟩ false
      ⟨[], [], ⟨0, []⟩⟩ ⟨(), []⟩).1 = (⟨0, [80, 90]⟩, none) := by decide

/-- **The order of the ports does not matter**: two ports flags whose pieces are permutations of
one another give the same configuration, or the same error, and the same run. -/
theorem getPortConfigFromArgs_perm {p₁ p₂ : Str} (h₁ : p₁ ≠ []) (h₂ : p₂ ≠ [])
    (hperm : (split ',' p₁).Perm (split ',' p₂)) (m : GoInt) (nm : Bool) (meta : ImageMetadata)
    (s : Sys W) : getPortConfigFromArgs p₁ m nm meta s = getPortConfigFromArgs p₂ m nm meta s := by
  rw [getPortConfigFromArgs_of_ne_nil h₁, getPortConfigFromArgs_of_ne_nil h₂]
  simp only [portConfigFromFlag, hperm.length_eq, sortStrings_eq_of_perm hperm]

theorem getPortConfigFromArgs_perm_80_90 :
    @getPortConfigFromArgs Unit "80,90".toList ⟨80, by norm_num, by norm_num⟩ false ⟨[], [], ⟨0, []⟩⟩
        ⟨(), []⟩ =
      getPortConfigFromArgs "90,80".toList ⟨80, by norm_num, by norm_num⟩ false ⟨[], [], ⟨0, []⟩⟩
        ⟨(), []⟩ :=
  getPortConfigFromArgs_perm (by decide) (by decide) (by decide) _ _ _ _

/-- **Where the monitored port comes from.** For metadata whose ports are empty or monitor one of
their exposed ports, a configuration without error exposes a port; with at most one port string it
monitors an exposed port, or none when no ports flag is given, the metadata declares no port and
monitoring is off; with several it monitors the monitored-port flag when that is a port number,
unchecked against the exposed ports, and the flag is not `0` when monitoring is on. -/
theorem getPortConfigFromArgs_monitored (portsFlag : Str) (m : GoInt) (nm : Bool)
    (meta : ImageMetadata) (s : Sys W) {pc : PortConfig}
    (hmeta : meta.ports.exposed = [] ∨ meta.ports.monitored ∈ meta.ports.exposed)
    (h : (getPortConfigFromArgs portsFlag m nm meta s).1 = (pc, none)) :
    pc.exposed ≠ [] ∧
    ((split ',' portsFlag).length ≤ 1 → pc.monitored ∈ pc.exposed ∨
      (pc.monitored = 0 ∧ nm = true ∧ portsFlag = [] ∧ meta.ports.exposed = [])) ∧
    (1 < (split ',' portsFlag).length →
      (0 ≤ m.val → m.val ≤ 65535 → (pc.monitored.toNat : Int) = m.val) ∧ (nm = false → m.val ≠ 0)) := by
  by_cases hp : portsFlag = []
  · subst hp
    have hl : (split ',' []).length = 1 := rfl
    simp only [getPortConfigFromArgs, true_and, hl] at h ⊢
    split_ifs at h with h1 h2 h3
    · obtain ⟨rfl, -⟩ := Prod.mk.inj h
      have hne : meta.ports.exposed ≠ [] := by simpa [PortConfig.isEmpty] using h1
      exact ⟨hne, fun _ => .inl (hmeta.resolve_left hne), by omega⟩
    · obtain ⟨rfl, -⟩ := Prod.mk.inj h
      exact ⟨by simp, fun _ => .inr ⟨rfl, h2.2, by simpa [PortConfig.isEmpty] using h2.1⟩, by omega⟩
    · obtain ⟨rfl, -⟩ := Prod.mk.inj h
      exact ⟨by simp, fun _ => .inl (by simp), by omega⟩
    · exact (h1 (Bool.eq_false_iff.mpr h3)).elim
  · rw [getPortConfigFromArgs_of_ne_nil hp] at h
    obtain ⟨hf, hm, hmust⟩ := portConfigFromFlag_eq_ok h
    have hne : pc.exposed ≠ [] := by
      rw [← List.length_pos, ← hf.length_eq, length_sortStrings, List.length_pos]
      exact split_ne_nil ',' portsFlag
    refine ⟨hne, fun hl => .inl ?_, fun hl => ⟨fun h0 h1 => ?_, fun hnm h0 => hmust ⟨hl, h0, hnm⟩⟩⟩
    · obtain ⟨a, l, hal⟩ := List.exists_cons_of_ne_nil hne
      rw [hm, if_neg (by omega), hal]
      simp
    · rw [hm, if_pos hl, toNat_toUint16, Int.emod_eq_of_lt h0 (by omega)]

theorem getPortConfigFromArgs_unexposed_monitored :
    (@getPortConfigFromArgs Unit "80,90".toList ⟨100, by norm_num, by norm_num⟩ false
      ⟨[], [], ⟨0, []⟩⟩ ⟨(), []⟩).1 = (⟨100, [80, 90]⟩, none) ∧
    (100 : UInt16) ∉ ([80, 90] : List UInt16) := by decide

/-! ### Ports flags written from ports -/

/-- The ports flag a user writes for `ports`: their `Itoa` texts joined by `,`. -/
def portsFlagOf (ports : List UInt16) : Str := join (ports.map fun port => itoa port.toNat) ",".toList

/-- `ports` in the order of their decimal texts, the order `sort.Strings` puts their pieces in. -/
def sortByText (ports : List UInt16) : List UInt16 :=
  ports.insertionSort fun a b => itoa a.toNat ≤ itoa b.toNat

theorem convertPort_itoa (port : UInt16) : convertPort (itoa port.toNat) = some port := by
  have hlt := toNat_uint16_lt port
  unfold convertPort
  rw [atoi_itoa (by omega) (by omega)]
  dsimp only
  rw [if_neg (by omega), toUint16_toNat]

theorem convertPorts_itoa (ports acc : List UInt16) :
    convertPorts (ports.map fun port => itoa port.toNat) acc = some (acc ++ ports) := by
  induction ports generalizing acc with
  | nil => simp [convertPorts]
  | cons port ports ih => simp [convertPorts, convertPort_itoa, ih]

theorem split_portsFlagOf {ports : List UInt16} (hne : ports ≠ []) :
    split ',' (portsFlagOf ports) = ports.map fun port => itoa port.toNat :=
  split_intercalate ',' (by simpa using hne) fun _ hp hc => by
    obtain ⟨port, -, rfl⟩ := List.mem_map.mp hp
    exact absurd (isDigit_of_mem_itoa hc) (by decide)

theorem portsFlagOf_ne_nil {ports : List UInt16} (hne : ports ≠ []) : portsFlagOf ports ≠ [] := fun h => by
  have hs := split_portsFlagOf hne
  rw [h, split_nil] at hs
  obtain ⟨port, -, hp⟩ := List.mem_map.mp (hs ▸ List.mem_singleton_self [])
  exact itoa_natCast_ne_nil _ hp

/-- **A ports flag written from ports reads back as those ports, in the order of their texts.** For
every non-empty list of ports, the flag `p1,p2,…` exposes exactly those ports, sorted by their
decimal texts and not by value (`80,443` exposes `443` first), and monitors `uint16` of the
monitored-port flag when there are several ports and the one port otherwise; it fails only for
several ports with monitoring on and the monitored-port flag `0`. -/
theorem getPortConfigFromArgs_portsFlagOf {ports : List UInt16} (hne : ports ≠ []) (m : GoInt) (nm : Bool)
    (meta : ImageMetadata) (s : Sys W) :
    getPortConfigFromArgs (portsFlagOf ports) m nm meta s =
      (if 1 < ports.length ∧ m.val = 0 ∧ nm = false then (⟨0, []⟩, some mustSetMonitoredPortErrorMessage)
        else (⟨if 1 < ports.length then toUint16 m.val else ports.headD 0, sortByText ports⟩, none), s) := by
  have hsort : sortStrings (ports.map fun port => itoa port.toNat) =
      (sortByText ports).map fun port => itoa port.toNat :=
    (List.map_insertionSort _ _ (fun port : UInt16 => itoa port.toNat) ports fun _ _ _ _ => Iff.rfl).symm
  rw [getPortConfigFromArgs_of_ne_nil (portsFlagOf_ne_nil hne)]
  simp only [portConfigFromFlag, split_portsFlagOf hne, List.length_map, hsort, convertPorts_itoa,
    List.nil_append, gt_iff_lt]
  split_ifs with h₁ h₂ <;> try rfl
  obtain ⟨port, _ | ⟨q, rest⟩, rfl⟩ := List.exists_cons_of_ne_nil hne
  · rfl
  · simp at h₂

theorem getPortConfigFromArgs_portsFlagOf_80_443 :
    ([80, 443] : List UInt16) ≠ [] ∧
    @getPortConfigFromArgs Unit (portsFlagOf [80, 443]) ⟨80, by norm_num, by norm_num⟩ false
        ⟨[], [], ⟨0, []⟩⟩ ⟨(), []⟩ =
      (if 1 < [80, 443].length ∧ (80 : Int) = 0 ∧ false = false then
          (⟨0, []⟩, some mustSetMonitoredPortErrorMessage)
        else (⟨if 1 < [80, 443].length then toUint16 80 else [80, 443].headD 0, sortByText [80, 443]⟩,
          none), ⟨(), []⟩) :=
  ⟨by decide, getPortConfigFromArgs_portsFlagOf (by decide) _ _ _ _⟩

example : sortByText [80, 443, 8080] = [443, 80, 8080] := by decide

end LatticeLtc.Ports
