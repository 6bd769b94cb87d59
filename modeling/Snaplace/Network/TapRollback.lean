import Snaplace.Network.TapCreation

/-!
# What a failed creation of a TAP device leaves

From the moment that the tap is persistent, a step that fails has to delete it. All of them do, except
for the first one, which looks the tap up by its name.
-/
namespace Snaplace
open Foundation

namespace Network.TapCreation
open Handler (attempt mapErr refuse orUndo logged wp_refuse fromExcept)

/-! ## Every step keeps the device apart from the others -/

section Steps
variable {answers : Answers} {s t : Kernel} {d : Device} {link : Link}

@[simp] theorem wp_spawnBlocking {α : Type} (cancelled : Bool) (task : Handler Kernel Error α)
    (Q : Handler.Post Kernel Error α) (k : Kernel) :
    Handler.wp (spawnBlocking cancelled task) Q k ↔
      (cancelled = true → Q.err (.joinTask .cancelled) k) ∧
      (cancelled = false → Handler.wp task
        { ok := Q.ok, err := Q.err, panic := fun msg => Q.err (.joinTask (.panic msg)) } k) := by
  unfold Handler.wp spawnBlocking
  cases cancelled <;> cases task k <;> simp [Handler.Post.holds]

/-- The link is that of the device. -/
def Names (answers : Answers) (link : Link) (d : Device) : Prop :=
  link = linkOf answers.tellsAddress d

theorem Names.index (h : Names answers link d) : link.index = d.index := by
  rw [h]
  rfl

/-- A step that has failed leaves the device, but no other one. -/
def Fails (s : Kernel) (index : Nat) (u : Kernel) : Prop := ∃ d, s.Adds u d ∧ d.index = index

/-- A look-up that is not refused finds what the list holds. -/
theorem wp_lookUp {missed : Option Missed} {tellsAddress : Bool} {p : Device → Bool}
    {Q : Handler.Post Kernel Error Link}
    (found : missed = none → t.devices.find? p = some d ∧ Q.ok (linkOf tellsAddress d) t)
    (err : ∀ e, Q.err e t) : Handler.wp (lookUp missed tellsAddress p) Q t := by
  unfold lookUp
  simp only [Handler.wp_bind, wp_refuse, Handler.wp_get]
  constructor
  · intro none
    obtain ⟨here, ok⟩ := found none
    rw [here]
    exact ok
  · exact fun _ _ => err _

theorem setLink_spec (added : s.Adds t d) (of : Names answers link d) (answer : Answer)
    (change : Setup → Setup) :
    Handler.wp (setLink answer answers.tellsAddress link change)
      { ok := fun link u => s.Adds u { d with setup := change d.setup } ∧
          Names answers link { d with setup := change d.setup }
        err := fun _ => Fails s d.index } t := by
  unfold setLink
  simp only [Handler.wp_bind, wp_refuse, Handler.wp_modify]
  have changed := added.update change
  rw [of.index]
  constructor
  · intro _
    apply wp_lookUp
    · exact fun _ => ⟨changed.find_index, changed, rfl⟩
    · exact fun _ => ⟨_, changed, rfl⟩
  · exact fun _ _ => ⟨d, added, rfl⟩

/-- If deletions succeed, a step that fails takes the device with it. -/
theorem orDelete_spec {α : Type} {step : Handler Kernel Error α} {P : α → Kernel → Prop}
    (deletes : answers.delete = none)
    (h : Handler.wp step { ok := P, err := fun _ => Fails s link.index } t) :
    Handler.wp (orDelete answers link step) { ok := P, err := fun _ u => u.devices = s.devices } t := by
  unfold orDelete
  rw [Handler.wp_orUndo]
  apply Handler.wp_mono h
  · exact fun _ _ done => done
  · intro e u failed
    obtain ⟨d, added, index⟩ := failed
    simp only [Handler.wp_logged, deleteTap, Handler.wp_bind, wp_refuse, Handler.wp_modify, deletes]
    refine ⟨fun _ => ?_, nofun⟩
    apply added.keep_old
    · intro e different
      simpa [← index] using different
    · simp [index]
  · exact fun _ _ panicked => panicked

theorem macBytes_macOf {bytes : List UInt8} (six : bytes.length = 6) :
    macBytes (macOf bytes) = bytes := by
  obtain ⟨a, b, c, d, e, f, rfl⟩ : ∃ a b c d e f, bytes = [a, b, c, d, e, f] := by
    match bytes, six with
    | [a, b, c, d, e, f], _ => exact ⟨a, b, c, d, e, f, rfl⟩
  have byte {b : UInt8} {n : Nat} (h : n % 256 = b.toNat) : UInt8.ofNat n = b := by
    apply UInt8.toNat_inj.mp
    simpa using h
  have := a.toNat_lt
  have := b.toNat_lt
  have := c.toNat_lt
  have := d.toNat_lt
  have := e.toNat_lt
  have := f.toNat_lt
  simp only [macBytes, macOf, List.map_cons, List.map_nil, List.foldl_cons, List.foldl_nil,
    List.cons.injEq, and_true]
  refine ⟨byte ?_, byte ?_, byte ?_, byte ?_, byte ?_, byte ?_⟩ <;> omega

theorem encode_splitAtByte {text before after : List Char} {n : Nat}
    (split : Text.splitAtByte text n = some (before, after)) :
    before.flatMap String.utf8EncodeChar = (text.flatMap String.utf8EncodeChar).take n := by
  induction text generalizing n before with
  | nil => cases n <;> simp_all [Text.splitAtByte]
  | cons c text ih =>
    cases n with
    | zero => simp_all [Text.splitAtByte]
    | succ n =>
      simp only [Text.splitAtByte] at split
      split at split
      next fits =>
        obtain ⟨⟨start, rest⟩, there, same⟩ := Option.map_eq_some_iff.mp split
        obtain ⟨rfl, rfl⟩ := Prod.mk.inj same
        have whole : (String.utf8EncodeChar c).take (n + 1) = String.utf8EncodeChar c :=
          List.take_of_length_le (by simpa using fits)
        simp [List.take_append, ih there, whole]
      next => cases split

theorem byteLength_eq (text : List Char) :
    (text.flatMap String.utf8EncodeChar).length = Text.byteLength text := by
  simp [Text.byteLength, List.length_flatMap]

/-- The cut name is made of the bytes that the kernel was given. -/
theorem encode_adjustName {name cut : String} (adjusted : adjustName name = some cut) :
    encode cut = prepareIfreq name := by
  obtain ⟨⟨before, after⟩, split, rfl⟩ := Option.map_eq_some_iff.mp adjusted
  have bytes := encode_splitAtByte split
  rw [encode, String.toList_ofList, bytes, prepareIfreq, encode, ← byteLength_eq, List.take_eq_take_iff]
  omega

theorem length_prepareIfreq (name : String) : (prepareIfreq name).length < IFNAMSIZ := by
  simp [prepareIfreq, IFNAMSIZ]

/-! ## The whole of the creation -/

/-- The name that the kernel gives the tap. -/
def nameOf (answers : Answers) (ifr : List UInt8) : List UInt8 :=
  if Literal (cstr ifr) then cstr ifr else answers.named

/-- The creation reaches the point where the tap is persistent. -/
structure Persists (answers : Answers) (name : String) (s : Kernel) : Prop where
  cancelled : answers.cancelled = false
  openTun : answers.openTun = none
  tunSetIff : answers.tunSetIff = none
  free : ¬s.Taken (cstr (prepareIfreq name))
  named : Literal (nameOf answers (prepareIfreq name)) ∧
    ¬s.Taken (nameOf answers (prepareIfreq name))
  tunSetPersist : answers.tunSetPersist = none

/-- The name is cut between two characters, the kernel takes it as it is, and the first look-up of the
tap goes well. -/
structure Followed (answers : Answers) (name : String) : Prop where
  cut : (adjustName name).isSome
  literal : Literal (cstr (prepareIfreq name))
  byName : answers.byName = none

/-- The tap as the tun driver leaves it. -/
def madeTap (answers : Answers) (name : String) (persistent : Bool) (s : Kernel) : Device where
  index := s.nextIndex
  name := nameOf answers (prepareIfreq name)
  setup := { macAddr := answers.assigned, addrs := [], group := 0, up := false, persistent }

theorem tunSetIff_spec (name : String) (s : Kernel) :
    Handler.wp (tunSetIff answers (prepareIfreq name))
      { ok := fun index t => index = s.nextIndex ∧ s.Adds t (madeTap answers name false s) ∧
          answers.tunSetIff = none ∧ ¬s.Taken (cstr (prepareIfreq name)) ∧
          Literal (nameOf answers (prepareIfreq name)) ∧
          ¬s.Taken (nameOf answers (prepareIfreq name))
        err := fun _ t => ¬Persists answers name s ∧ t = s } s := by
  unfold tunSetIff
  simp only [Handler.wp_bind, wp_refuse, Handler.wp_get]
  constructor
  · intro tunSetIff
    by_cases taken : s.Taken (cstr (prepareIfreq name))
    · simp only [if_pos taken]
      exact ⟨fun persists => persists.free taken, rfl⟩
    · simp only [if_neg taken]
      by_cases named : Literal (nameOf answers (prepareIfreq name)) ∧
          ¬s.Taken (nameOf answers (prepareIfreq name))
      · have made := s.adds_add named.1
          { macAddr := answers.assigned, addrs := [], group := 0, up := false, persistent := false }
        unfold nameOf at made named
        rw [dif_pos named]
        exact ⟨rfl, made, tunSetIff, taken, named⟩
      · have unnamed := named
        unfold nameOf at unnamed
        rw [dif_neg unnamed]
        exact ⟨fun persists => named persists.named, rfl⟩
  · intro source failed
    refine ⟨fun persists => ?_, trivial⟩
    rw [persists.tunSetIff] at failed
    cases failed

/-- A tap that is not made persistent goes with its file. -/
theorem createTapDevice_spec (name : String) (s : Kernel) :
    Handler.wp (createTapDevice answers (prepareIfreq name))
      { ok := fun _ t => (answers.cancelled = false → Persists answers name s) ∧
          s.Adds t (madeTap answers name true s)
        err := fun _ t => ¬Persists answers name s ∧ t.devices = s.devices } s := by
  unfold createTapDevice
  simp only [Handler.wp_bind, wp_refuse]
  constructor
  · intro openTun
    apply Handler.wp_mono (tunSetIff_spec name s)
    · rintro index t ⟨rfl, made, tunSetIff, free, named⟩
      simp only [tunSetPersist, closeTun, Handler.wp_attempt, Handler.wp_bind, wp_refuse,
        Handler.wp_modify]
      constructor
      · intro tunSetPersist
        have kept := made.update fun s => { s with persistent := true }
        refine ⟨fun running => ⟨running, openTun, tunSetIff, free, named, tunSetPersist⟩, ?_⟩
        apply kept.keep_all
        · intro e different
          simpa using .inl different
        · simp
      · intro source failed
        refine ⟨fun persists => ?_, ?_⟩
        · rw [persists.tunSetPersist] at failed
          cases failed
        · apply made.keep_old
          · intro e different
            simpa using .inl different
          · simp [madeTap]
    · rintro e t ⟨refused, rfl⟩
      exact ⟨refused, rfl⟩
    · exact fun _ _ panicked => panicked
  · intro source failed
    refine ⟨fun persists => ?_, trivial⟩
    rw [persists.openTun] at failed
    cases failed

/-- Every step was done for what the device reports. -/
structure Complete (d : Device) (tap : TapDevice) : Prop where
  index : d.index = tap.index
  name : d.name = cstr (encode tap.info.name)
  macAddr : ∃ mac, tap.info.macAddr = some mac ∧ d.setup.macAddr = macBytes mac
  addrs : d.setup.addrs =
    [{ addr := tap.info.gateway, prefixLen := tap.info.prefixLen,
       broadcast := tap.info.prefixLen ≤ 30 }]
  group : d.setup.group = DEVGROUP
  up : d.setup.up = true
  persistent : d.setup.persistent = true

/-- The device reports what was asked for, of whose name the kernel takes the first bytes. -/
structure Reports (info : TapInfo) (tap : TapDevice) : Prop where
  name : encode tap.info.name = prepareIfreq info.name
  macAddr : ∀ mac, info.macAddr = some mac → tap.info.macAddr = some mac
  ipAddr : tap.info.ipAddr = info.ipAddr
  prefixLen : tap.info.prefixLen = info.prefixLen
  gateway : tap.info.gateway = info.gateway

/-- Creation is all or nothing. -/
def AllOrNothing (info : TapInfo) (s : Kernel) : Handler.Post Kernel Error TapDevice where
  ok tap t := Reports info tap ∧ ∃ d, s.Adds t d ∧ Complete d tap
  err _ t := t.devices = s.devices

theorem Names.macAddr (of : Names answers link d) {mac : MacAddress}
    (read : link.macAddr = .ok mac) : d.setup.macAddr = macBytes mac := by
  subst of
  unfold Link.macAddr linkOf at read
  cases tells : answers.tellsAddress with
  | false => simp [tells] at read
  | true =>
    simp only [tells, if_true] at read
    by_cases six : d.setup.macAddr.length = 6
    · rw [if_pos six] at read
      cases read
      exact (macBytes_macOf six).symm
    · rw [if_neg six] at read
      cases read

theorem settleMac_spec (deletes : answers.delete = none) (added : s.Adds t d)
    (of : Names answers link d) (macAddr : Option MacAddress) :
    Handler.wp (settleMac answers link macAddr)
      { ok := fun r u => (∀ mac, macAddr = some mac → r.2 = mac) ∧
          s.Adds u { d with setup := { d.setup with macAddr := macBytes r.2 } } ∧
          Names answers r.1 { d with setup := { d.setup with macAddr := macBytes r.2 } }
        err := fun _ u => u.devices = s.devices } t := by
  unfold settleMac
  cases macAddr with
  | some address =>
    apply orDelete_spec deletes
    rw [Handler.wp_bind, of.index]
    apply Handler.wp_mono (setLink_spec added of answers.setAddress _)
    · rintro link u ⟨changed, of⟩
      exact ⟨fun mac same => Option.some.inj same, changed, of⟩
    · exact fun _ _ failed => failed
    · exact fun _ _ panicked => panicked
  | none =>
    apply orDelete_spec deletes
    rw [of.index]
    simp only [Handler.wp_bind, Handler.wp_fromExcept, Handler.wp_pure]
    refine ⟨fun mac read => ⟨nofun, ?_⟩, fun _ _ => ⟨d, added, rfl⟩⟩
    have same : { d with setup := { d.setup with macAddr := macBytes mac } } = d := by
      rw [← of.macAddr read]
    rw [same]
    exact ⟨added, of⟩

/-- One of the changes that the creation makes of every tap. -/
theorem change_spec (deletes : answers.delete = none) (added : s.Adds t d)
    (of : Names answers link d) (answer : Answer) (change : Setup → Setup) :
    Handler.wp (orDelete answers link (setLink answer answers.tellsAddress link change))
      { ok := fun link u => s.Adds u { d with setup := change d.setup } ∧
          Names answers link { d with setup := change d.setup }
        err := fun _ u => u.devices = s.devices } t := by
  apply orDelete_spec deletes
  rw [of.index]
  exact setLink_spec added of answer change

/-- A tap that stays although the creation fails. -/
def Left (answers : Answers) (name : String) (s : Kernel) (e : Error) (t : Kernel) : Prop :=
  Persists answers name s ∧ ¬Followed answers name ∧ s.Adds t (madeTap answers name true s) ∧
    ∀ source, e ≠ .tapInit (.tunSetIff source)

theorem makeTap_spec (name : String) (s : Kernel) :
    Handler.wp (makeTap answers name)
      { ok := fun cut t => adjustName name = some cut ∧ Persists answers name s ∧
          s.Adds t (madeTap answers name true s)
        err := fun e t => (¬Persists answers name s ∧ t.devices = s.devices) ∨
          Left answers name s e t } s := by
  unfold makeTap
  rw [wp_spawnBlocking]
  constructor
  · intro cancelled
    refine .inl ⟨fun persists => ?_, rfl⟩
    simpa [cancelled] using persists.cancelled
  · intro running
    rw [Handler.wp_bind, Handler.wp_mapErr]
    apply Handler.wp_mono (createTapDevice_spec name s)
    · rintro _ t ⟨persists, made⟩
      have persists := persists running
      refine (Handler.wp_expect _ _ _ _).mpr ⟨fun cut adjusted => ⟨adjusted, persists, made⟩, fun broken => .inr ?_⟩
      refine ⟨persists, fun followed => ?_, made, nofun⟩
      simpa [broken] using followed.cut
    · exact fun _ _ refused => .inl refused
    · exact fun _ _ panicked => panicked.elim

theorem byName_spec {cut name : String} (adjusted : adjustName name = some cut)
    (persists : Persists answers name s) (made : s.Adds t (madeTap answers name true s)) :
    Handler.wp (byName answers.byName answers.tellsAddress cut)
      { ok := fun link u => u = t ∧ Followed answers name ∧
          Names answers link (madeTap answers name true s)
        err := Left answers name s } t := by
  have left {e : Error} (lost : ¬Followed answers name) (other : ∀ source, e ≠ .tapInit source) :
      Left answers name s e t :=
    ⟨persists, lost, made, fun source => other _⟩
  have bytes := encode_adjustName adjusted
  have short := length_prepareIfreq name
  have fits : ¬IFNAMSIZ ≤ (prepareIfreq name).length := by omega
  unfold byName lookUp
  rw [bytes, if_neg fits]
  simp only [Handler.wp_bind, wp_refuse, Handler.wp_get]
  constructor
  · intro byName
    by_cases literal : Literal (cstr (prepareIfreq name))
    · have named : (madeTap answers name true s).name = cstr (prepareIfreq name) := if_pos literal
      have free : ¬s.Taken (madeTap answers name true s).name := by
        rw [named]
        exact persists.free
      have found := made.find_name free
      rw [named] at found
      rw [found]
      refine ⟨rfl, ⟨?_, literal, byName⟩, rfl⟩
      rw [adjusted]
      rfl
    · have none : t.devices.find? (·.name = cstr (prepareIfreq name)) = none := by
        rw [List.find?_eq_none]
        intro d mem
        have named := t.literal d mem
        simp only [decide_eq_true_eq]
        intro same
        rw [same] at named
        exact literal named
      rw [none]
      exact left (fun followed => literal followed.literal) nofun
  · intro missed failed
    have lost : ¬Followed answers name := by
      intro followed
      rw [followed.byName] at failed
      cases failed
    cases missed <;> exact left lost nofun

/-- A creation that gets as far as a persistent tap ends well, or without it, if the name is followed;
else the tap stays. -/
theorem newTapOf_spec (deletes : answers.delete = none) (info : TapInfo) (s : Kernel) :
    Handler.wp (newTapOf answers info)
      { ok := fun tap t => Followed answers info.name ∧ (AllOrNothing info s).ok tap t
        err := fun e t =>
          ((Persists answers info.name s → Followed answers info.name) ∧ t.devices = s.devices) ∨
            Left answers info.name s e t } s := by
  unfold newTapOf newTap
  apply Handler.wp_seq (makeTap_spec info.name s)
  · rintro cut t ⟨adjusted, persists, made⟩
    apply Handler.wp_seq (byName_spec adjusted persists made)
    · rintro link _ ⟨rfl, followed, of⟩
      have gone : ∀ (e : Error) u, u.devices = s.devices →
          ((Persists answers info.name s → Followed answers info.name) ∧ u.devices = s.devices) ∨
            Left answers info.name s e u :=
        fun _ _ same => .inl ⟨fun _ => followed, same⟩
      refine Handler.wp_seq (settleMac_spec deletes made of info.macAddr) ?_ gone fun _ _ => False.elim
      rintro ⟨link, mac⟩ t ⟨asked, made, of⟩
      refine Handler.wp_seq (change_spec deletes made of _ _) ?_ gone fun _ _ => False.elim
      rintro link t ⟨made, of⟩
      refine Handler.wp_seq (change_spec deletes made of _ _) ?_ gone fun _ _ => False.elim
      rintro link t ⟨made, of⟩
      refine Handler.wp_seq (change_spec deletes made of _ _) ?_ gone fun _ _ => False.elim
      rintro link t ⟨made, of⟩
      have bytes := encode_adjustName adjusted
      refine ⟨followed, ⟨bytes, ?_, rfl, rfl, rfl⟩, _, made,
        ⟨of.index.symm, ?_, ⟨mac, rfl, rfl⟩, rfl, rfl, rfl, rfl⟩⟩
      · intro given same
        exact congrArg some (asked given same)
      · exact (if_pos followed.literal).trans (congrArg cstr bytes.symm)
    · exact fun _ _ left => .inr left
    · exact fun _ _ => False.elim
  · rintro e t (⟨refused, same⟩ | left)
    · exact .inl ⟨fun persists => absurd persists refused, same⟩
    · exact .inr left
  · exact fun _ _ => False.elim

/-- The handler keeps what `Q` says unless it leaves a tap. -/
theorem iff_of_spec {m : Handler Kernel Error TapDevice} {name : String}
    {P : TapDevice → Kernel → Prop}
    (spec : Handler.wp m
      { ok := fun tap t => (Persists answers name s → Followed answers name) ∧ P tap t
        err := fun _ t => ((Persists answers name s → Followed answers name) ∧
            t.devices = s.devices) ∨
          (Persists answers name s ∧ ¬Followed answers name ∧ ∃ d, s.Adds t d) } s) :
    Handler.wp m { ok := P, err := fun _ t => t.devices = s.devices } s ↔
      (Persists answers name s → Followed answers name) := by
  constructor
  · intro holds
    unfold Handler.wp at holds spec
    cases ran : m s with
    | ok tap t =>
      rw [ran] at spec
      exact spec.1
    | err e t =>
      rw [ran] at holds spec
      rcases spec with ⟨followed, -⟩ | ⟨-, -, d, added⟩
      · exact followed
      · have same : s.devices ++ [d] = s.devices := added.devices.symm.trans holds
        simp at same
    | panic msg t =>
      rw [ran] at spec
      exact spec.elim
  · intro followed
    apply Handler.wp_mono spec
    · exact fun _ _ done => done.2
    · rintro e t (⟨-, same⟩ | ⟨persists, lost, -⟩)
      · exact same
      · exact absurd (followed persists) lost
    · exact fun _ _ => False.elim

/-- The device was there before, and nothing of it has changed. -/
structure Adopted (info : TapInfo) (s : Kernel) (tap : TapDevice) (t : Kernel) : Prop where
  same : t.devices = s.devices
  reported : tap.info = { info with macAddr := tap.info.macAddr }
  there : ∃ d ∈ s.devices, d.index = tap.index ∧ d.name = cstr (encode info.name)

/-- Creation is all or nothing, or there is nothing to create. -/
def AllOrAdopted (info : TapInfo) (s : Kernel) : Handler.Post Kernel Error TapDevice where
  ok tap t := (AllOrNothing info s).ok tap t ∨ Adopted info s tap t
  err _ t := t.devices = s.devices

theorem newTapOf_iff (deletes : answers.delete = none) (info : TapInfo) (s : Kernel) :
    Handler.wp (newTapOf answers info) (AllOrNothing info s) s ↔
      (Persists answers info.name s → Followed answers info.name) := by
  apply iff_of_spec
  apply Handler.wp_mono (newTapOf_spec deletes info s)
  · exact fun _ _ done => ⟨fun _ => done.1, done.2⟩
  · rintro e t (gone | ⟨persists, lost, added, -⟩)
    · exact .inl gone
    · exact .inr ⟨persists, lost, _, added⟩
  · exact fun _ _ => False.elim

theorem build_iff (deletes : answers.delete = none) (info : TapInfo) (s : Kernel) :
    Handler.wp (build answers { info }) (AllOrNothing info s) s ↔
      (Persists answers info.name s → Followed answers info.name) := by
  rw [← newTapOf_iff deletes info s, build, Handler.wp_mapErr]
  rfl

/-- A device that a look-up by name finds is one of the kernel's. -/
theorem byName_mem (missed : Option Missed) (name : String) (t : Kernel) :
    Handler.wp (byName missed answers.tellsAddress name)
      { ok := fun link u => u = t ∧ ∃ d ∈ t.devices, d.index = link.index ∧ d.name = cstr (encode name)
        err := fun _ u => u = t } t := by
  unfold byName lookUp
  by_cases long : IFNAMSIZ ≤ (encode name).length
  · simp only [if_pos long]
    rfl
  · simp only [if_neg long, Handler.wp_bind, wp_refuse, Handler.wp_get]
    refine ⟨fun _ => ?_, fun _ _ => trivial⟩
    cases found : t.devices.find? (·.name = cstr (encode name)) with
    | none => rfl
    | some d =>
      refine ⟨rfl, d, List.mem_of_find?_eq_some found, rfl, ?_⟩
      simpa using List.find?_some found

theorem buildOrAdopt_iff (deletes : answers.delete = none) (info : TapInfo) (s : Kernel) :
    Handler.wp (buildOrAdopt answers { info }) (AllOrAdopted info s) s ↔
      (Persists answers info.name s → Followed answers info.name) := by
  apply iff_of_spec
  unfold buildOrAdopt
  rw [Handler.wp_bind, Handler.wp_attempt]
  apply Handler.wp_mono (newTapOf_spec deletes info s)
  · exact fun _ _ done => ⟨fun _ => done.1, .inl done.2⟩
  · intro e t failed
    dsimp only
    split
    next same => cases same
    next _ busy =>
      cases busy
      rcases failed with ⟨followed, same⟩ | ⟨-, -, -, other⟩
      · rw [Handler.wp_bind, Handler.wp_mapErr]
        apply Handler.wp_mono (byName_mem answers.adopt info.name t)
        · rintro link _ ⟨rfl, d, mem, index, named⟩
          rw [same] at mem
          cases known : info.macAddr with
          | some mac => exact ⟨followed, .inr ⟨same, rfl, d, mem, index, named⟩⟩
          | none =>
            simp only [Handler.wp_bind, Handler.wp_fromExcept, Handler.wp_pure]
            refine ⟨fun mac _ => ?_, fun _ _ => .inl ⟨followed, same⟩⟩
            exact ⟨followed, .inr ⟨same, rfl, d, mem, index, named⟩⟩
        · rintro _ _ rfl
          exact .inl ⟨followed, same⟩
        · exact fun _ _ => False.elim
      · exact absurd rfl (other EBUSY)
    next =>
      rcases failed with gone | ⟨persists, lost, added, -⟩
      · exact .inl gone
      · exact .inr ⟨persists, lost, _, added⟩
  · exact fun _ _ => False.elim

/-- A tap of the name stands in the way of every later creation. -/
theorem newTapOf_taken {info : TapInfo} (taken : s.Taken (cstr (prepareIfreq info.name)))
    (cancelled : answers.cancelled = false) (openTun : answers.openTun = none)
    (accepted : answers.tunSetIff = none) :
    newTapOf answers info s = .err (.tapInit (.tunSetIff EBUSY)) s := by
  apply Handler.eq_err_of_wp
  unfold newTapOf newTap makeTap createTapDevice tunSetIff
  simp [cancelled, openTun, accepted, taken]

end Steps

/-- For every tap asked for and every pattern of failures, creation is all or nothing if and only if
a tap that was made persistent can be found under its name. -/
theorem creation_allOrNothing_iff (answers : Answers) (deletes : answers.delete = none)
    (info : TapInfo) (s : Kernel) :
    (Handler.wp (newTapOf answers info) (AllOrNothing info s) s ↔
      (Persists answers info.name s → Followed answers info.name)) ∧
    (Handler.wp (build answers { info }) (AllOrNothing info s) s ↔
      (Persists answers info.name s → Followed answers info.name)) ∧
    (Handler.wp (buildOrAdopt answers { info }) (AllOrAdopted info s) s ↔
      (Persists answers info.name s → Followed answers info.name)) :=
  ⟨newTapOf_iff deletes info s, build_iff deletes info s, buildOrAdopt_iff deletes info s⟩

/-- Everything goes well. -/
def smooth : Answers where
  cancelled := false
  openTun := none
  tunSetIff := none
  named := [116]
  assigned := [2, 0, 0, 0, 0, 1]
  tunSetPersist := none
  byName := none
  tellsAddress := true
  setAddress := ⟨none, none⟩
  addAddr := ⟨none, none⟩
  setGroup := ⟨none, none⟩
  setUp := ⟨none, none⟩
  delete := none
  adopt := none

/-- The connection to rtnetlink is lost when the new tap is looked up. -/
def lost : Answers := { smooth with byName := some .nothing }

def tap : TapInfo where
  name := "t"
  macAddr := none
  ipAddr := 1
  prefixLen := 31
  gateway := 0

def noDevices : Kernel where
  devices := []
  nextIndex := 1
  fresh := nofun
  literal := nofun

theorem encode_tap : encode tap.name = [116] := by
  simp [encode, tap]
  decide

theorem creation_smooth : Handler.wp (newTapOf smooth tap) (AllOrNothing tap noDevices) noDevices := by
  apply (creation_allOrNothing_iff smooth rfl tap noDevices).1.mpr
  intro _
  have ifr : prepareIfreq tap.name = [116] := by
    rw [prepareIfreq, encode_tap]
    rfl
  refine ⟨?_, ?_, rfl⟩
  · decide
  · rw [ifr]
    decide

/-- The look-up fails, the tap stays, and nothing more is built for the address. -/
theorem lost_tap_stays :
    ¬Handler.wp (build lost { info := tap }) (AllOrNothing tap noDevices) noDevices ∧
      build smooth { info := tap } (build lost { info := tap } noDevices).state =
        .err (.tapBuild 1 31 (.tapInit (.tunSetIff EBUSY)))
          (build lost { info := tap } noDevices).state := by
  have ifr : prepareIfreq tap.name = [116] := by
    rw [prepareIfreq, encode_tap]
    rfl
  have named : nameOf lost (prepareIfreq tap.name) = [116] := by
    rw [ifr]
    decide
  have persists : Persists lost tap.name noDevices := by
    refine ⟨rfl, rfl, rfl, nofun, ?_, rfl⟩
    rw [named]
    exact ⟨by decide, nofun⟩
  have unfollowed : ¬Followed lost tap.name := fun followed => nomatch followed.byName
  have spec := @newTapOf_spec lost rfl tap noDevices
  constructor
  · rw [build_iff rfl]
    exact fun followed => unfollowed (followed persists)
  · unfold Handler.wp at spec
    cases ran : newTapOf lost tap noDevices with
    | ok d t =>
      rw [ran] at spec
      exact absurd spec.1 unfollowed
    | err e t =>
      rw [ran] at spec
      rcases spec with ⟨followed, -⟩ | ⟨-, -, added, -⟩
      · exact absurd (followed persists) unfollowed
      · have taken : t.Taken (cstr (prepareIfreq tap.name)) := by
          refine ⟨_, by rw [added.devices]; exact List.mem_concat_self, ?_⟩
          rw [ifr]
          exact named
        have state : (build lost { info := tap } noDevices).state = t := by
          simp [build, mapErr, ran]
        rw [state, build, mapErr, newTapOf_taken taken rfl rfl rfl]
        rfl
    | panic msg t =>
      rw [ran] at spec
      exact spec.elim

end Network.TapCreation
end Snaplace
