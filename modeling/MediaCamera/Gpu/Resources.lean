import MediaCamera.Gpu.Session

/-!
# The resources of the encoder

The plugin closes what it opens for the encoder, once, and everything before what it lives on.

* `Session.Owns g l`     the ledger is sound, and the members in `l` hold what is open;
* `Owns.destroyEncoder`  after `DestroyEncoder` nothing is open;
* `ensureEncoder_returns`, `encodeRenderedFrame_returns`   how the functions leave the session;
* `resources_owned`      every run.
-/

namespace MediaCamera.Nvenc

/-- what the API promises: a table with the checked functions has them all, and a session that is
opened is there -/
def CreationAnswers.Documented (a : CreationAnswers) : Prop :=
  (a.tableChecked = true → ∀ f, a.table f = true) ∧
    (a.openEncodeSessionEx = true → a.encoder = true)

def Action.Documented : Action → Prop
  | .destroyEncoder => True
  | .encodeRenderedFrame a => a.creation.Documented

abbrev Returns {α : Type} (x : Render α) (g : Session) (Q : α → Session → Prop) : Prop :=
  Script.Ends x g Q fun _ _ => False

/-- the members in `l` hold what is open, and with an encoder the API is complete -/
structure Session.Owns (g : Session) (l : List Slot) : Prop where
  holding : g.device.Holding Slot.needs l
  api : .encoder ∈ l → ∀ f, g.api f = true

namespace Session.Owns
variable {g : Session} {l : List Slot} {s : Slot} {f : ApiFunction}

theorem take (h : g.Owns l) (hs : s ∉ l) (hneeds : ∀ s' ∈ s.needs, s' ∈ l)
    (hapi : s = .encoder → ∀ f, g.api f = true) : (g.take s).Owns (s :: l) := by
  refine ⟨h.holding.take hs hneeds, fun hmem => ?_⟩
  rcases List.mem_cons.mp hmem with he | hmem
  · exact hapi he.symm
  · exact h.api hmem

theorem uses (h : g.Owns l) (args : List Slot) (hargs : ∀ s ∈ args, s ∈ l) : (g.uses args).Owns l :=
  ⟨h.holding.uses hargs, h.api⟩

theorem call (h : g.Owns l) (args : List Slot) (hf : g.api f = true) (hargs : ∀ s ∈ args, s ∈ l) :
    (g.call f args).Owns l := by
  rw [Session.call, if_pos hf]
  exact h.uses args hargs

theorem drop (h : g.Owns l) (hs : s ∈ l) (hunneeded : ∀ s' ∈ l, s ∉ s'.needs) :
    (g.onDevice (.drop s)).Owns (l.filter (· ≠ s)) :=
  ⟨h.holding.drop hs hunneeded, fun hmem => h.api (List.mem_filter.mp hmem).1⟩

theorem release (h : g.Owns l) (he : .encoder ∈ l) (hunneeded : ∀ s' ∈ l, s ∉ s'.needs) :
    (g.release f s).Owns (l.filter (· ≠ s)) := by
  unfold Session.release
  by_cases hs : s ∈ l
  · rw [if_pos (by rw [Session.has, h.holding.has hs, h.api he]; rfl)]
    exact (h.uses [.encoder] (by simpa using he)).drop hs hunneeded
  · rw [if_neg (by rw [Session.has, h.holding.has_not hs]; exact Bool.false_ne_true)]
    rw [List.filter_eq_self.mpr fun s' hs' => by
      have hne : s' ≠ s := by
        rintro rfl
        exact hs hs'
      simpa using hne]
    exact ⟨h.holding.forget hs, h.api⟩

theorem release_api : (g.release f s).api = g.api := by
  unfold Session.release
  split <;> rfl

theorem destroyConversionTexture (h : g.Owns l) (hreg : .registeredInput ∉ l) :
    ∃ l', g.destroyConversionTexture.Owns l' ∧ ∀ s ∈ l', s ∈ l ∧ s ≠ .encoderTexture ∧
      s ≠ .readFramebuffer ∧ s ≠ .drawFramebuffer := by
  have hneeds : ∀ s : Slot, s ∈ l → Slot.readFramebuffer ∉ s.needs ∧
      Slot.drawFramebuffer ∉ s.needs ∧ Slot.encoderTexture ∉ s.needs := by
    intro s hs
    cases s
    case registeredInput => exact absurd hs hreg
    all_goals simp [Slot.needs]
  have hdrops := ((h.holding.dropIf (s := .readFramebuffer) fun s hs => (hneeds s hs).1).dropIf
    (s := .drawFramebuffer) fun s hs => (hneeds s (List.mem_filter.mp hs).1).2.1).dropIf
    (s := .encoderTexture) fun s hs =>
      (hneeds s (List.mem_filter.mp (List.mem_filter.mp hs).1).1).2.2
  refine ⟨_, ⟨hdrops, fun hmem => h.api ?_⟩, fun s hs => ?_⟩
  · exact (List.mem_filter.mp (List.mem_filter.mp (List.mem_filter.mp hmem).1).1).1
  · simpa [and_assoc, and_comm, and_left_comm] using hs

theorem closeEncoder (h : g.Owns l) (hmapped : .mappedResource ∉ l) (hlocked : .lockedBitstream ∉ l)
    (he : .encoder ∈ l) : ∃ l', g.closeEncoder.Owns l' ∧ ∀ s ∈ l', s ∈ l ∧ s ≠ .encoder ∧
      s ≠ .registeredInput ∧ s ≠ .bitstream := by
  have hneeds : ∀ s : Slot, s ∈ l → Slot.registeredInput ∉ s.needs ∧ Slot.bitstream ∉ s.needs := by
    intro s hs
    cases s
    case mappedResource => exact absurd hs hmapped
    case lockedBitstream => exact absurd hs hlocked
    all_goals simp [Slot.needs]
  have hbuffers := (h.release (f := .unregisterResource) (s := .registeredInput) he
    fun s hs => (hneeds s hs).1).release (f := .destroyBitstreamBuffer) (s := .bitstream)
      (by simpa using he) fun s hs => (hneeds s (List.mem_filter.mp hs).1).2
  have hapi : ((g.release .unregisterResource .registeredInput).release .destroyBitstreamBuffer
      .bitstream).api .destroyEncoder = true := by
    rw [release_api, release_api]
    exact h.api he _
  have hencoder := hbuffers.drop (s := .encoder) (by simpa using he) fun s hs => by
    obtain ⟨hs, hbitstream⟩ := List.mem_filter.mp hs
    obtain ⟨hs, hregistered⟩ := List.mem_filter.mp hs
    cases s
    case registeredInput => exact absurd rfl (of_decide_eq_true hregistered)
    case bitstream => exact absurd rfl (of_decide_eq_true hbitstream)
    case mappedResource => exact absurd hs hmapped
    case lockedBitstream => exact absurd hs hlocked
    all_goals simp [Slot.needs]
  have hclose : g.closeEncoder = ((g.release .unregisterResource .registeredInput).release
      .destroyBitstreamBuffer .bitstream).onDevice (.drop .encoder) := by
    unfold Session.closeEncoder
    dsimp only
    rw [hapi]
    rfl
  rw [hclose]
  refine ⟨_, hencoder, fun s hs => ?_⟩
  simpa [and_assoc, and_comm, and_left_comm] using hs

theorem destroyEncoder (h : g.Owns l) (hmapped : .mappedResource ∉ l)
    (hlocked : .lockedBitstream ∉ l) : g.destroyEncoder.Owns [] := by
  -- with or without an encoder, nothing is left that lives on the library
  obtain ⟨l', hl', hless⟩ : ∃ l', (if g.has .encoder then g.closeEncoder else g).Owns l' ∧
      ∀ s ∈ l', s ∈ l ∧ s ≠ .encoder ∧ s ≠ .registeredInput ∧ s ≠ .bitstream := by
    split
    · rename_i he
      exact h.closeEncoder hmapped hlocked ((h.holding.has_iff _).mp he)
    · rename_i he
      refine ⟨l, h, fun s hs => ⟨hs, ?_, ?_, ?_⟩⟩
      all_goals
        rintro rfl
        have hneeded := h.holding.sound.needed _ (h.holding.has hs)
      · exact he (h.holding.has hs)
      · exact he (hneeded .encoder (by simp [Slot.needs]))
      · exact he (hneeded .encoder (by simp [Slot.needs]))
  generalize hg' : (if g.has .encoder then g.closeEncoder else g) = g' at hl'
  have hlibrary := hl'.holding.dropIf (s := .nvencLibrary) fun s hs => by
    cases s
    case encoder => exact absurd rfl (hless _ hs).2.1
    all_goals simp [Slot.needs]
  have howns : Session.Owns { g' with
      device := g'.device.dropIf .nvencLibrary, api := fun _ => false, encoderWidth := 0
      encoderHeight := 0, encoderResourcesActive := false }
      (l'.filter (· ≠ Slot.nvencLibrary)) :=
    ⟨hlibrary, fun hmem => absurd rfl (hless _ (List.mem_filter.mp hmem).1).2.1⟩
  obtain ⟨l'', hl'', hnone⟩ := howns.destroyConversionTexture fun hmem =>
    absurd rfl (hless _ (List.mem_filter.mp hmem).1).2.2.1
  have hnil : l'' = [] := by
    apply List.eq_nil_iff_forall_not_mem.mpr
    intro s hs
    obtain ⟨hmem, htexture⟩ := hnone s hs
    obtain ⟨hmem, hne⟩ := List.mem_filter.mp hmem
    obtain ⟨hl, hothers⟩ := hless s hmem
    cases s <;> simp_all
  rw [hnil] at hl''
  show (Session.destroyEncoder g).Owns []
  unfold Session.destroyEncoder
  dsimp only
  rw [hg']
  exact hl''

end Session.Owns

/-! ## between the callbacks -/

def textures : List Slot := [.drawFramebuffer, .readFramebuffer, .encoderTexture]

def resources : List Slot :=
  .bitstream :: .registeredInput :: .encoder :: .nvencLibrary :: textures

structure Session.Ready (g : Session) : Prop where
  owns : g.Owns resources
  active : g.encoderResourcesActive = true

/-- there is none; without `libnvidia-encode.so.1` the conversion texture stays -/
structure Session.Idle (g : Session) : Prop where
  owns : g.Owns [] ∨ g.Owns textures
  active : g.encoderResourcesActive = false

theorem Session.Owns.idle {g : Session} {l : List Slot} (h : g.Owns l)
    (hmapped : .mappedResource ∉ l) (hlocked : .lockedBitstream ∉ l) : g.destroyEncoder.Idle :=
  ⟨.inl (h.destroyEncoder hmapped hlocked), rfl⟩

theorem giveUp_returns {g : Session} {l : List Slot} (h : g.Owns l)
    (hmapped : .mappedResource ∉ l) (hlocked : .lockedBitstream ∉ l) :
    Returns giveUp g fun b g' => b = false ∧ g'.Idle :=
  .modify_bind (.pure ⟨rfl, h.idle hmapped hlocked⟩)

/-! ## creation -/

theorem ensureGLEWDispatch_returns {g : Session} {l : List Slot} (h : g.Owns l) (glewInit : Bool) :
    Returns (ensureGLEWDispatch glewInit) g fun b g' =>
      b = (g.glewInitialized || glewInit) ∧ g'.Owns l ∧
        g'.encoderResourcesActive = g.encoderResourcesActive := by
  apply Script.Ends.once
  · intro hg
    exact ⟨by rw [hg]; rfl, h, rfl⟩
  · intro hg hinit
    exact ⟨by rw [hg, hinit]; rfl, h, rfl⟩
  · intro hg hinit
    exact ⟨by rw [hg, hinit]; rfl, ⟨h.holding, h.api⟩, rfl⟩

theorem genTextures_owns {g : Session} (h : g.Owns []) (a : TextureAnswers) :
    ∃ l, (g.genTextures a).Owns l ∧ (∀ s ∈ l, s ∈ textures) ∧
      (a.works = true → l = textures) := by
  obtain ⟨glewInit, encoderTexture, readFramebuffer, drawFramebuffer, noError⟩ := a
  have htake {g : Session} {l : List Slot} (h : g.Owns l) (s : Slot) (hs : s ∉ l)
      (hneeds : s.needs = []) (hne : s ≠ .encoder) (b : Bool) :
      (if b then g.take s else g).Owns (if b then s :: l else l) := by
    cases b with
    | false => exact h
    | true => exact h.take hs (by simp [hneeds]) fun he => absurd he hne
  have h₁ := htake h .encoderTexture (by simp) rfl (by simp) encoderTexture
  have h₂ := htake h₁ .readFramebuffer (by split <;> simp) rfl (by simp) readFramebuffer
  have h₃ := htake h₂ .drawFramebuffer (by split <;> split <;> simp) rfl (by simp) drawFramebuffer
  refine ⟨_, h₃, ?_, ?_⟩
  · cases encoderTexture <;> cases readFramebuffer <;> cases drawFramebuffer <;> simp [textures]
  · cases encoderTexture <;> cases readFramebuffer <;> cases drawFramebuffer <;>
      simp [textures, TextureAnswers.works]

theorem ensureConversionTexture_returns {g : Session} (h : g.Owns []) (width height : Nat)
    (a : TextureAnswers) :
    Returns (ensureConversionTexture width height a) g fun b g' =>
      b = ((g.glewInitialized || a.glewInit) && a.works) ∧
        g'.encoderResourcesActive = g.encoderResourcesActive ∧
        (b = false → g'.Owns []) ∧ (b = true → g'.Owns textures) := by
  refine .bind (ensureGLEWDispatch_returns h a.glewInit) ?_
  rintro b g' ⟨hb, h', hactive⟩
  rw [← hb, ← hactive]
  cases b with
  | false => exact .pure ⟨rfl, rfl, fun _ => h', fun hf => absurd hf Bool.false_ne_true⟩
  | true =>
    refine .get_bind ?_
    have hnone : g'.has .encoderTexture = false := h'.holding.has_not (by simp)
    rw [if_neg (by rw [hnone]; simp)]
    -- nothing to destroy, then the three names
    obtain ⟨l, hl, hnone⟩ := h'.destroyConversionTexture (by simp)
    obtain rfl : l = [] := List.eq_nil_iff_forall_not_mem.mpr fun s hs => by
      simpa using (hnone s hs).1
    obtain ⟨l, howns, htextures, hall⟩ := genTextures_owns hl a
    refine .modify_bind (.modify_bind ?_)
    have hkeep : (g'.destroyConversionTexture.genTextures a).encoderResourcesActive =
        g'.encoderResourcesActive := by
      unfold Session.genTextures
      split <;> split <;> split <;> rfl
    split
    · rename_i hworks
      have hworks : a.works = false := by simpa using hworks
      obtain ⟨l', hl', hless⟩ := howns.destroyConversionTexture fun hmem => by
        have := htextures _ hmem
        simp [textures] at this
      obtain rfl : l' = [] := List.eq_nil_iff_forall_not_mem.mpr fun s hs => by
        obtain ⟨hmem, h₁, h₂, h₃⟩ := hless s hs
        have hmem := htextures s hmem
        simp only [textures, List.mem_cons, List.not_mem_nil, or_false] at hmem
        rcases hmem with rfl | rfl | rfl
        · exact h₃ rfl
        · exact h₂ rfl
        · exact h₁ rfl
      rw [hworks]
      exact .modify_bind (.pure ⟨rfl, hkeep, fun _ => hl', fun hf => absurd hf Bool.false_ne_true⟩)
    · rename_i hworks
      have hworks : a.works = true := by simpa using hworks
      rw [hall hworks] at howns
      rw [hworks]
      exact .modify_bind (.pure ⟨rfl, hkeep, fun hf => absurd hf.symm Bool.false_ne_true,
        fun _ => ⟨howns.holding, howns.api⟩⟩)

structure Created (works : Bool) (width height : Nat) (b : Bool) (g : Session) : Prop where
  result : b = works
  ready : b = true → g.Ready ∧ g.encoderWidth = width ∧ g.encoderHeight = height
  idle : b = false → g.Idle

theorem Created.failed {works : Bool} {width height : Nat} {g : Session} (hworks : works = false)
    (hidle : g.Idle) : Created works width height false g :=
  ⟨hworks.symm, fun hf => absurd hf Bool.false_ne_true, fun _ => hidle⟩

theorem Created.done {works : Bool} {width height : Nat} {g : Session} (hworks : works = true)
    (hready : g.Ready) (hw : g.encoderWidth = width) (hh : g.encoderHeight = height) :
    Created works width height true g :=
  ⟨hworks.symm, fun _ => ⟨hready, hw, hh⟩, fun hf => absurd hf.symm Bool.false_ne_true⟩

section
variable {g : Session} {l : List Slot} {width height : Nat} {a : CreationAnswers}

theorem giveUp_created {works : Bool} (h : g.Owns l) (hmapped : .mappedResource ∉ l)
    (hlocked : .lockedBitstream ∉ l) (hworks : works = false) :
    Returns giveUp g (Created works width height) := by
  refine (giveUp_returns h hmapped hlocked).mono ?_ fun _ _ he => he
  rintro b g' ⟨rfl, hidle⟩
  exact .failed hworks hidle

theorem registerBuffers_created (h : g.Owns (.encoder :: .nvencLibrary :: textures)) :
    Returns (registerBuffers width height a) g
      (Created (a.registerResource && a.createBitstreamBuffer) width height) := by
  have hregister := h.call (f := .registerResource) [.encoder, .encoderTexture]
    (h.api (by simp) _) (by simp [textures])
  refine .modify_bind ?_
  split
  · rename_i hr
    exact giveUp_created hregister (by simp [textures]) (by simp [textures]) (by simp_all)
  rename_i hr
  have hr : a.registerResource = true := by simpa using hr
  have hinput := hregister.take (s := .registeredInput) (by simp [textures])
    (by simp [Slot.needs, textures]) (fun he => by cases he)
  have hcreate := hinput.call (f := .createBitstreamBuffer) [.encoder]
    (hinput.api (by simp) _) (by simp)
  refine .modify_bind (.modify_bind ?_)
  split
  · rename_i hc
    exact giveUp_created hcreate (by simp [textures]) (by simp [textures]) (by simp_all)
  rename_i hc
  have hc : a.createBitstreamBuffer = true := by simpa using hc
  have hready := hcreate.take (s := .bitstream) (by simp [textures]) (by simp [Slot.needs])
    (fun he => by cases he)
  refine .modify_bind (.modify_bind (.pure (.done ?_ ⟨⟨hready.holding, hready.api⟩, rfl⟩ rfl rfl)))
  rw [hr, hc]
  rfl

theorem openSession_created (h : g.Owns (.nvencLibrary :: textures)) (hdoc : a.Documented)
    (hapi : ∀ f, g.api f = true) :
    Returns (openSession width height a) g
      (Created (a.openEncodeSessionEx && a.getEncodePresetConfigEx && a.initializeEncoder &&
        a.registerResource && a.createBitstreamBuffer) width height) := by
  have hcall := h.call (f := .openEncodeSessionEx) [.nvencLibrary] (hapi _) (by simp)
  have hopened := hcall.take (s := .encoder) (by simp [textures]) (by simp [Slot.needs]) fun _ => by
    rw [Session.call, if_pos (hapi _)]
    exact hapi
  have hmaybe : Session.Owns
      (if a.encoder then (g.call .openEncodeSessionEx [.nvencLibrary]).take .encoder
        else g.call .openEncodeSessionEx [.nvencLibrary])
      (if a.encoder then .encoder :: .nvencLibrary :: textures else .nvencLibrary :: textures) := by
    split
    · exact hopened
    · exact hcall
  refine .modify_bind (.modify_bind ?_)
  split
  · rename_i ho
    exact giveUp_created hmaybe (by split <;> simp [textures]) (by split <;> simp [textures])
      (by simp_all)
  rename_i ho
  have ho : a.openEncodeSessionEx = true := by simpa using ho
  rw [hdoc.2 ho, if_pos rfl]
  have hpreset := hopened.call (f := .getEncodePresetConfigEx) [.encoder]
    (hopened.api (by simp) _) (by simp)
  refine .modify_bind ?_
  split
  · exact giveUp_created hpreset (by simp [textures]) (by simp [textures]) (by simp_all)
  rename_i hp
  have hp : a.getEncodePresetConfigEx = true := by simpa using hp
  have hinit := hpreset.call (f := .initializeEncoder) [.encoder]
    (hpreset.api (by simp) _) (by simp)
  refine .modify_bind ?_
  split
  · exact giveUp_created hinit (by simp [textures]) (by simp [textures]) (by simp_all)
  rename_i hi
  have hi : a.initializeEncoder = true := by simpa using hi
  simpa only [ho, hp, hi, Bool.true_and] using registerBuffers_created hinit

theorem loadLibrary_created (h : g.Owns textures) (hactive : g.encoderResourcesActive = false)
    (hdoc : a.Documented) :
    Returns (loadLibrary width height a) g
      (Created (a.dlopen && a.dlsym && a.tableChecked && a.openEncodeSessionEx &&
        a.getEncodePresetConfigEx && a.initializeEncoder && a.registerResource &&
        a.createBitstreamBuffer) width height) := by
  unfold loadLibrary
  split
  · -- the conversion texture stays
    rename_i hd
    exact .pure (.failed (by simp_all) ⟨.inr h, hactive⟩)
  rename_i hd
  have hd : a.dlopen = true := by simpa using hd
  have hlibrary := h.take (s := .nvencLibrary) (by simp [textures]) (by simp [Slot.needs])
    fun he => by cases he
  have hsymbol := hlibrary.uses [.nvencLibrary] (by simp)
  refine .modify_bind (.modify_bind ?_)
  split
  · exact giveUp_created hsymbol (by simp [textures]) (by simp [textures]) (by simp_all)
  rename_i hs
  have hs : a.dlsym = true := by simpa using hs
  have hcreate := hsymbol.uses [.nvencLibrary] (by simp)
  have htable : Session.Owns { (((g.take .nvencLibrary).uses [.nvencLibrary]).uses
      [.nvencLibrary]) with api := a.table } (.nvencLibrary :: textures) :=
    ⟨hcreate.holding, fun he => by simp [textures] at he⟩
  refine .modify_bind ?_
  split
  · exact giveUp_created htable (by simp [textures]) (by simp [textures]) (by simp_all)
  rename_i ht
  have ht : a.tableChecked = true := by simpa using ht
  simpa only [hd, hs, ht, Bool.true_and] using openSession_created htable hdoc (hdoc.1 ht)

def Session.fits (g : Session) (width height : Nat) : Bool :=
  g.has .encoder && g.encoderWidth == width && g.encoderHeight == height

/-- what the callbacks leave -/
def Session.Resting (g : Session) : Prop := g.Ready ∨ g.Idle

theorem Session.Resting.owns (h : g.Resting) :
    ∃ l, g.Owns l ∧ .mappedResource ∉ l ∧ .lockedBitstream ∉ l := by
  rcases h with h | h
  · exact ⟨_, h.owns, by simp [resources, textures], by simp [resources, textures]⟩
  · rcases h.owns with h | h
    · exact ⟨_, h, by simp, by simp⟩
    · exact ⟨_, h, by simp [textures], by simp [textures]⟩

theorem Session.Resting.has_encoder (h : g.Resting) : g.has .encoder = g.encoderResourcesActive := by
  rcases h with h | h
  · rw [h.active]
    exact h.owns.holding.has (by simp [resources])
  · rw [h.active]
    rcases h.owns with h | h
    · exact h.holding.has_not (by simp)
    · exact h.holding.has_not (by simp [textures])

theorem destroyEncoder_glewInitialized (g : Session) :
    g.destroyEncoder.glewInitialized = g.glewInitialized := by
  unfold Session.destroyEncoder Session.closeEncoder Session.release
  dsimp only
  split <;> (try split) <;> (try split) <;> rfl

theorem ensureEncoder_created (h : g.Resting) (hdoc : a.Documented) :
    Returns (ensureEncoder width height a) g
      (Created (g.fits width height || (decide (width ≠ 0 ∧ height ≠ 0) &&
        a.works g.glewInitialized)) width height) := by
  refine .get_bind ?_
  split
  · rename_i hfits
    have hfits' : g.fits width height = true := hfits
    rw [Bool.and_eq_true, Bool.and_eq_true, beq_iff_eq, beq_iff_eq] at hfits
    rw [hfits', Bool.true_or]
    refine .pure (.done rfl ?_ hfits.1.2 hfits.2)
    rcases h with h | h
    · exact h
    · have hactive := Session.Resting.has_encoder (.inr h)
      rw [hfits.1.1, h.active] at hactive
      cases hactive
  rename_i hfits
  have hfits : g.fits width height = false := by
    rw [← Bool.not_eq_true]
    exact hfits
  rw [hfits, Bool.false_or]
  obtain ⟨l, howns, hmapped, hlocked⟩ := h.owns
  have hnone := howns.destroyEncoder hmapped hlocked
  refine .modify_bind ?_
  split
  · rename_i hzero
    refine .pure (.failed ?_ ⟨.inl hnone, rfl⟩)
    rw [decide_eq_false (by tauto), Bool.false_and]
  rename_i hzero
  rw [decide_eq_true (by tauto), Bool.true_and]
  refine .bind (ensureConversionTexture_returns hnone width height a.texture) ?_
  rintro b g' ⟨hb, hactive, hempty, htextures⟩
  rw [destroyEncoder_glewInitialized] at hb
  cases b with
  | false =>
    refine .pure (.failed ?_ ⟨.inl (hempty rfl), hactive⟩)
    simp only [CreationAnswers.works, ← hb, Bool.false_and]
  | true =>
    refine (loadLibrary_created (htextures rfl) hactive hdoc).mono ?_ fun _ _ he => he
    intro b g'' hcreated
    refine ⟨hcreated.result.trans ?_, hcreated.ready, hcreated.idle⟩
    simp only [CreationAnswers.works, ← hb, Bool.true_and]

end

/-! ## a frame -/

def FrameAnswers.keeps (a : FrameAnswers) : Bool :=
  !a.mapInputResource || match a.encodePicture with
    | .error => false
    | .success => a.lockBitstream && a.paired
    | .needMoreInput => !a.overdue

/-- what `EncodeRenderedFrame` returns after the copy -/
def FrameAnswers.submits (a : FrameAnswers) : Bool :=
  a.mapInputResource && match a.encodePicture with
    | .error => false
    | .success => a.lockBitstream && a.paired && a.sent
    | .needMoreInput => !a.overdue

structure Left (result keeps : Bool) (width height : Nat) (b : Bool) (g : Session) : Prop where
  result : b = result
  ready : keeps = true → g.Ready ∧ g.encoderWidth = width ∧ g.encoderHeight = height
  idle : keeps = false → g.Idle

section
variable {g : Session} {l : List Slot} {a : FrameAnswers}

theorem Left.kept {result : Bool} {width height : Nat} (h : g.Ready) (hw : g.encoderWidth = width)
    (hh : g.encoderHeight = height) : Left result true width height result g :=
  ⟨rfl, fun _ => ⟨h, hw, hh⟩, fun hf => absurd hf.symm Bool.false_ne_true⟩

theorem Left.lost {width height : Nat} (h : g.Idle) : Left false false width height false g :=
  ⟨rfl, fun hf => absurd hf Bool.false_ne_true, fun _ => h⟩

/-- the members that tell what the encoder is made for -/
structure Alike (g g' : Session) : Prop where
  width : g'.encoderWidth = g.encoderWidth
  height : g'.encoderHeight = g.encoderHeight
  active : g'.encoderResourcesActive = g.encoderResourcesActive

theorem Alike.trans {g g' g'' : Session} (h : Alike g g') (h' : Alike g' g'') : Alike g g'' :=
  ⟨h'.width.trans h.width, h'.height.trans h.height, h'.active.trans h.active⟩

theorem onDevice_alike (f : Device Slot → Device Slot) (g : Session) : Alike g (g.onDevice f) :=
  ⟨rfl, rfl, rfl⟩

theorem take_alike (s : Slot) (g : Session) : Alike g (g.take s) := onDevice_alike _ g

theorem call_alike (f : ApiFunction) (args : List Slot) (g : Session) :
    Alike g (g.call f args) := by
  unfold Session.call
  split
  · exact onDevice_alike _ g
  · exact onDevice_alike _ g

theorem unmapInput_returns (h : g.Owns (.mappedResource :: resources)) :
    Returns unmapInput g fun _ g' => g'.Owns resources ∧ Alike g g' := by
  have hdrop := (h.uses [.encoder] (by simp [resources])).drop (s := .mappedResource) (by simp)
    (by simp [resources, textures, Slot.needs])
  show Session.Owns (if g.api .unmapInputResource then _ else _) _ ∧ Alike g (if _ then _ else _)
  rw [if_pos (h.api (by simp [resources]) _)]
  exact ⟨hdrop, (onDevice_alike _ g).trans (onDevice_alike _ _)⟩

theorem finishFrame_left (h : g.Owns (.mappedResource :: resources))
    (hactive : g.encoderResourcesActive = true) (sent recreateEncoder : Bool) :
    Returns (finishFrame sent recreateEncoder) g (Left (!recreateEncoder && sent)
      (!recreateEncoder) g.encoderWidth g.encoderHeight) := by
  refine .bind (unmapInput_returns h) ?_
  rintro _ g' ⟨h', hsame⟩
  cases recreateEncoder with
  | true =>
    refine (giveUp_returns h' (by simp [resources, textures]) (by simp [resources, textures])).mono
      ?_ fun _ _ he => he
    rintro b g'' ⟨rfl, hidle⟩
    exact .lost hidle
  | false => exact .pure (.kept ⟨h', hsame.active.trans hactive⟩ hsame.width hsame.height)

theorem takeOutput_returns (h : g.Owns (.mappedResource :: resources)) :
    Returns (takeOutput a) g fun r g' =>
      r = (if a.lockBitstream && a.paired then (a.sent, false) else (false, true)) ∧
        g'.Owns (.mappedResource :: resources) ∧ Alike g g' := by
  have hcall := h.call (f := .lockBitstream) [.encoder, .bitstream] (h.api (by simp [resources]) _)
    (by simp [resources])
  have hsame := call_alike .lockBitstream [.encoder, .bitstream] g
  refine .modify_bind ?_
  split
  · rename_i hlock
    exact .pure ⟨by simp_all, hcall, hsame⟩
  rename_i hlock
  have hlock : a.lockBitstream = true := by simpa using hlock
  have hlocked := hcall.take (s := .lockedBitstream) (by simp [resources, textures])
    (by simp [Slot.needs, resources]) fun he => by cases he
  generalize g.call .lockBitstream [.encoder, .bitstream] = g₁ at hcall hsame hlocked
  have hread : Session.Owns (if a.paired then (g₁.take .lockedBitstream).uses [.lockedBitstream]
      else g₁.take .lockedBitstream) (.lockedBitstream :: .mappedResource :: resources) := by
    split
    · exact hlocked.uses [.lockedBitstream] (by simp)
    · exact hlocked
  have hsame₂ : Alike g₁ (if a.paired then (g₁.take .lockedBitstream).uses [.lockedBitstream]
      else g₁.take .lockedBitstream) := by
    split
    · exact (onDevice_alike _ g₁).trans (onDevice_alike _ _)
    · exact onDevice_alike _ g₁
  refine .modify_bind (.modify_bind ?_)
  generalize (if a.paired then (g₁.take .lockedBitstream).uses [.lockedBitstream]
      else g₁.take .lockedBitstream) = g₂ at hread hsame₂
  have hunlock := (hread.uses [.encoder, .bitstream] (by simp [resources])).drop
    (s := .lockedBitstream) (by simp) (by simp [resources, textures, Slot.needs])
  refine .modify_bind ?_
  rw [if_pos (hread.api (by simp [resources]) _)]
  refine .pure ⟨?_, hunlock, (hsame.trans hsame₂).trans ?_⟩
  · rw [hlock, Bool.true_and]
  · exact (onDevice_alike _ g₂).trans (onDevice_alike _ _)

theorem submitFrame_left (h : g.Ready) :
    Returns (submitFrame a) g (Left a.submits a.keeps g.encoderWidth g.encoderHeight) := by
  have hcall := h.owns.call (f := .mapInputResource) [.encoder, .registeredInput]
    (h.owns.api (by simp [resources]) _) (by simp [resources])
  have hsame := call_alike .mapInputResource [.encoder, .registeredInput] g
  refine .modify_bind ?_
  rw [FrameAnswers.submits, FrameAnswers.keeps]
  split
  · rename_i hmap
    have hmap : a.mapInputResource = false := by simpa using hmap
    rw [hmap]
    exact .pure (.kept ⟨hcall, hsame.active.trans h.active⟩ hsame.width hsame.height)
  rename_i hmap
  have hmap : a.mapInputResource = true := by simpa using hmap
  have hmapped := hcall.take (s := .mappedResource) (by simp [resources, textures])
    (by simp [Slot.needs, resources]) fun he => by cases he
  have hencode := hmapped.call (f := .encodePicture) [.encoder, .mappedResource, .bitstream]
    (hmapped.api (by simp [resources]) _) (by simp [resources])
  have hsame := (hsame.trans (take_alike .mappedResource _)).trans
    (call_alike .encodePicture [.encoder, .mappedResource, .bitstream] _)
  refine .modify_bind (.modify_bind ?_)
  generalize Session.call .encodePicture _ _ = g' at hencode hsame
  rw [← hsame.width, ← hsame.height, hmap, Bool.true_and, Bool.not_true, Bool.false_or]
  have hactive : g'.encoderResourcesActive = true := hsame.active.trans h.active
  cases a.encodePicture with
  | error =>
    refine .bind (unmapInput_returns hencode) ?_
    rintro _ g'' ⟨h'', -⟩
    refine (giveUp_returns h'' (by simp [resources, textures])
      (by simp [resources, textures])).mono ?_ fun _ _ he => he
    rintro b g'' ⟨rfl, hidle⟩
    exact .lost hidle
  | success =>
    refine .bind (takeOutput_returns hencode) ?_
    rintro r g'' ⟨rfl, h'', hsame''⟩
    rw [← hsame''.width, ← hsame''.height]
    have hfinish := finishFrame_left h'' (hsame''.active.trans hactive)
    cases hpaired : a.lockBitstream && a.paired with
    | true => exact hfinish a.sent false
    | false => exact hfinish false true
  | needMoreInput =>
    have hfinish := finishFrame_left hencode hactive (!a.overdue) a.overdue
    rw [Bool.and_self] at hfinish
    exact hfinish

def Session.observed (g : Session) (timeWentBack : Bool) : Session :=
  if timeWentBack then g.destroyEncoder else g

theorem Session.Resting.observed (h : g.Resting) (timeWentBack : Bool) :
    (g.observed timeWentBack).Resting := by
  unfold Session.observed
  split
  · obtain ⟨l, howns, hmapped, hlocked⟩ := h.owns
    exact .inr (howns.idle hmapped hlocked)
  · exact h

theorem copyTextureToEncoderInput_returns (h : g.Ready) :
    Returns (copyTextureToEncoderInput a) g fun b g' =>
      b = (a.framebuffersComplete && a.copied) ∧ g'.Ready ∧ Alike g g' :=
  .modify_bind (.pure ⟨rfl, ⟨h.owns.uses [.readFramebuffer, .drawFramebuffer, .encoderTexture]
    (by simp [resources, textures]), h.active⟩, onDevice_alike _ g⟩)

def FrameAnswers.created (a : FrameAnswers) (g : Session) : Bool :=
  (g.observed a.timeWentBack).fits a.width a.height || (decide (a.width ≠ 0 ∧ a.height ≠ 0) &&
    a.creation.works (g.observed a.timeWentBack).glewInitialized)

theorem encodeRenderedFrame_left (h : g.Resting) (hdoc : a.creation.Documented) :
    Returns (encodeRenderedFrame a) g
      (Left (a.created g && a.framebuffersComplete && a.copied && a.submits)
        (a.created g && (!(a.framebuffersComplete && a.copied) || a.keeps)) a.width a.height) := by
  refine .modify_bind (.bind (ensureEncoder_created (h.observed a.timeWentBack) hdoc) ?_)
  intro b g' hcreated
  have hresult : b = a.created g := hcreated.result
  rw [← hresult]
  cases b with
  | false => exact .pure (.lost (hcreated.idle rfl))
  | true =>
    obtain ⟨hready, hw, hh⟩ := hcreated.ready rfl
    rw [if_neg (by simp), Bool.true_and, Bool.true_and]
    refine .bind (copyTextureToEncoderInput_returns hready) ?_
    rintro b g'' ⟨hb, hready'', hsame⟩
    rw [← hb, ← hw, ← hh, ← hsame.width, ← hsame.height]
    cases b with
    | false => exact .pure (.kept hready'' rfl rfl)
    | true => exact submitFrame_left hready''

end

/-! ## runs -/

theorem Session.initial_idle : Session.initial.Idle :=
  ⟨.inl ⟨.new, fun he => by cases he⟩, rfl⟩

theorem step_resting {g : Session} (h : g.Resting) {a : Action} (ha : a.Documented) :
    (step g a).Resting := by
  cases a with
  | destroyEncoder =>
    obtain ⟨l, howns, hmapped, hlocked⟩ := h.owns
    exact .inr (howns.idle hmapped hlocked)
  | encodeRenderedFrame a =>
    rcases (encodeRenderedFrame_left h ha).cases with ⟨b, g', hrun, hleft⟩ | ⟨e, -⟩
    · show (encodeRenderedFrame a g).2.Resting
      rw [hrun]
      cases hkeeps : a.created g && (!(a.framebuffersComplete && a.copied) || a.keeps) with
      | true => exact .inl (hleft.ready hkeeps).1
      | false => exact .inr (hleft.idle hkeeps)
    · cases e

theorem machine_resting {g : Session} (h : machine.ReachableUnder (fun _ a => a.Documented) g) :
    g.Resting := by
  refine Machine.ReachableUnder.invariant (P := Session.Resting) ?_ ?_ h
  · rintro g rfl
    exact .inr Session.initial_idle
  · intro g a _ ha hg
    exact step_resting hg ha

/-- **The resources of the encoder.**  However the calls of OpenGL, of the loader and of NVENC end, a
callback makes legal calls only: what is closed is not mentioned again, and is closed after what
lives on it.  The members hold exactly what is open; after a callback no input is mapped, no
bitstream is locked, and `encoderResourcesActive_` tells whether there is an encoder.
`DestroyEncoder` then closes all that is open. -/
theorem resources_owned {g : Session}
    (h : machine.ReachableUnder (fun _ a => a.Documented) g) :
    Legal g.device.trace ∧
      (∀ newer n older, g.device.trace = newer ++ .closed n :: older →
        (∀ e ∈ newer, ¬ e.Mentions n) ∧
          ∀ n' owners, .opened n' owners ∈ older → n ∈ owners → .closed n' ∈ older) ∧
      (∀ n, n ∈ openIn g.device.trace ↔ ∃ s, g.device.members s = some n) ∧
      g.has .mappedResource = false ∧ g.has .lockedBitstream = false ∧
      (∀ s, s = .nvencLibrary ∨ s = .encoder ∨ s = .registeredInput ∨ s = .bitstream →
        g.has s = g.encoderResourcesActive) ∧
      Legal g.destroyEncoder.device.trace ∧ openIn g.destroyEncoder.device.trace = [] := by
  have hresting := machine_resting h
  obtain ⟨l, howns, hmapped, hlocked⟩ := hresting.owns
  have hdestroyed := (howns.destroyEncoder hmapped hlocked).holding
  have hlegal := howns.holding.sound.legal
  refine ⟨hlegal, fun newer n older htrace => ?_, howns.holding.sound.held,
    howns.holding.has_not hmapped, howns.holding.has_not hlocked, fun s hs => ?_,
    hdestroyed.sound.legal, ?_⟩
  · rw [htrace] at hlegal
    exact ⟨hlegal.after_closed, fun n' owners ho hn => hlegal.owner_outlives ho hn⟩
  · rcases hresting with hready | hidle
    · rw [hready.active]
      refine hready.owns.holding.has ?_
      rcases hs with rfl | rfl | rfl | rfl <;> simp [resources]
    · rw [hidle.active]
      rcases hidle.owns with hl | hl <;> refine hl.holding.has_not ?_ <;>
        rcases hs with rfl | rfl | rfl | rfl <;> simp [textures]
  · apply List.eq_nil_iff_forall_not_mem.mpr
    intro n hn
    obtain ⟨s, hs⟩ := (hdestroyed.sound.held n).mp hn
    have hhas := hdestroyed.has_not (s := s) (by simp)
    rw [Device.has, hs] at hhas
    cases hhas

def TextureAnswers.sample : TextureAnswers := ⟨true, true, true, true, true⟩

def CreationAnswers.sample : CreationAnswers :=
  ⟨.sample, true, true, true, fun _ => true, true, true, true, true, true, true⟩

def FrameAnswers.sample : FrameAnswers :=
  ⟨640, 480, .sample, true, true, true, .success, true, false, true, true, false⟩

/-- a frame, one whose bitstream cannot be locked, and one without the library -/
def sampleRun : List Action :=
  [.encodeRenderedFrame .sample,
    .encodeRenderedFrame { FrameAnswers.sample with lockBitstream := false },
    .encodeRenderedFrame { FrameAnswers.sample with
      creation := { CreationAnswers.sample with dlopen := false } }]

theorem resources_owned_sampleRun :
    let g := machine.run .initial sampleRun
    g.device.opened = 13 ∧ g.has .encoderTexture = true ∧ g.has .encoder = false ∧
      openIn g.destroyEncoder.device.trace = [] := by
  have hdoc : ∀ a ∈ sampleRun, a.Documented := by
    intro a ha
    simp only [sampleRun, List.mem_cons, List.not_mem_nil, or_false] at ha
    rcases ha with rfl | rfl | rfl <;> exact ⟨fun _ _ => rfl, fun _ => rfl⟩
  have hreach : machine.ReachableUnder (fun _ a => a.Documented) (machine.run .initial sampleRun) :=
    (Machine.ReachableUnder.start (M := machine) rfl).run _
      (Machine.along_of_mem (fun g a ha => hdoc a ha) _)
  refine ⟨by decide, by decide, by decide, ?_⟩
  exact (resources_owned hreach).2.2.2.2.2.2.2

end MediaCamera.Nvenc
