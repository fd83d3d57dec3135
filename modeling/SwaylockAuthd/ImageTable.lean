import SwaylockAuthd.ImageWords
import SwaylockAuthd.Lib.Transition

/-!
# The table of images

`state->images` over a run of `load_image`: every call names an output or the default, and the
image it wants may load or not.  A monitor keeps the images that did load.

* `ImageLaw`: one entry for each name, and `select_image` finds the last image that loaded.
* `image_table_iff`: the runs that keep it and in which a load that fails changes nothing.
-/

namespace SwaylockAuthd

open Transition CBlock Shell

variable {σ : Type}

/-! ## Names -/

theorem strcmp_eq_zero {a : CString} : ∀ {b : CString}, strcmp a b = 0 ↔ a = b := by
  induction a with
  | nil =>
    intro b
    cases b with
    | nil => simp [strcmp]
    | cons d t => simp [strcmp]
  | cons c s ih =>
    intro b
    cases b with
    | nil => simp [strcmp]
    | cons d t =>
      rw [strcmp]
      split
      · rename_i hlt
        have hne : c ≠ d := UInt8.ne_of_lt hlt
        simp [hne]
      · rename_i hnlt
        split
        · rename_i hlt
          have hne : c ≠ d := (UInt8.ne_of_lt hlt).symm
          simp [hne]
        · rename_i hnlt'
          have heq : c = d := UInt8.le_antisymm (UInt8.not_lt.mp hnlt') (UInt8.not_lt.mp hnlt)
          rw [ih, heq]
          simp

theorem lenientStrcmp_eq_zero {a b : Option CString} : lenientStrcmp a b = 0 ↔ a = b := by
  cases a with
  | none =>
    cases b with
    | none => simp [lenientStrcmp]
    | some b => simp [lenientStrcmp]
  | some a =>
    cases b with
    | none => simp [lenientStrcmp]
    | some b => rw [lenientStrcmp, strcmp_eq_zero, Option.some_inj]

/-! ## The table -/

def names (images : List (SwaylockImage σ)) : List (Option CString) :=
  images.map SwaylockImage.outputName

/-- The image of the first entry with a name. -/
def entryOf (images : List (SwaylockImage σ)) (name : Option CString) : Option σ :=
  (images.find? fun image => image.outputName = name).map SwaylockImage.cairoSurface

/-- The entries without the first with a name. -/
def without (images : List (SwaylockImage σ)) (name : Option CString) : List (SwaylockImage σ) :=
  images.eraseP fun image => lenientStrcmp image.outputName name = 0

theorem entryOf_cons (image : SwaylockImage σ) (images : List (SwaylockImage σ))
    (name : Option CString) : entryOf (image :: images) name =
      if image.outputName = name then some image.cairoSurface else entryOf images name := by
  rw [entryOf, List.find?_cons]
  by_cases h : image.outputName = name
  · simp [h]
  · simp [h, entryOf]

theorem entryOf_eq_none {images : List (SwaylockImage σ)} {name : Option CString}
    (h : name ∉ names images) : entryOf images name = none := by
  rw [entryOf, Option.map_eq_none_iff, List.find?_eq_none]
  intro image hmem heq
  exact h (List.mem_map.mpr ⟨image, hmem, by simpa using heq⟩)

theorem without_cons (image : SwaylockImage σ) (images : List (SwaylockImage σ))
    (name : Option CString) : without (image :: images) name =
      if image.outputName = name then images else image :: without images name := by
  rw [without, List.eraseP_cons]
  by_cases h : image.outputName = name
  · simp [lenientStrcmp_eq_zero, h]
  · simp [lenientStrcmp_eq_zero, h, without]

theorem names_without (images : List (SwaylockImage σ)) (name : Option CString) :
    names (without images name) = (names images).erase name := by
  induction images with
  | nil => rfl
  | cons image images ih =>
    rw [without_cons, names, names, List.map_cons, List.erase_cons]
    by_cases h : image.outputName = name
    · simp [h]
    · simp only [h, beq_iff_eq, if_false, List.map_cons]
      exact congrArg _ ih

theorem without_eq_self {images : List (SwaylockImage σ)} {name : Option CString}
    (h : name ∉ names images) : without images name = images := by
  apply List.eraseP_of_forall_not
  intro image hmem heq
  rw [decide_eq_true_eq, lenientStrcmp_eq_zero] at heq
  exact h (List.mem_map.mpr ⟨image, hmem, heq⟩)

theorem without_ne_self {images : List (SwaylockImage σ)} {name : Option CString}
    (h : name ∈ names images) : without images name ≠ images := by
  intro heq
  have hlen := congrArg List.length (names_without images name)
  rw [heq, List.length_erase_of_mem h] at hlen
  have hpos := List.length_pos_of_mem h
  omega

theorem entryOf_without {images : List (SwaylockImage σ)} {name other : Option CString}
    (h : other ≠ name) : entryOf (without images name) other = entryOf images other := by
  induction images with
  | nil => rfl
  | cons image images ih =>
    rw [without_cons, entryOf_cons]
    by_cases hname : image.outputName = name
    · rw [if_pos hname, if_neg (fun he => h (he.symm.trans hname))]
    · rw [if_neg hname, entryOf_cons, ih]

/-- With one entry for each name, `select_image` finds the entry of the name or the default. -/
theorem selectImage_eq {images : List (SwaylockImage σ)} (h : (names images).Nodup)
    (name : Option CString) :
    selectImage images name = (entryOf images name).or (entryOf images none) := by
  have hfrom : ∀ d, selectImageFrom d name images =
      (entryOf images name).or ((entryOf images none).or d) := by
    induction images with
    | nil => intro d; rfl
    | cons image images ih =>
      intro d
      obtain ⟨hfresh, hnodup⟩ := List.nodup_cons.mp h
      rw [selectImageFrom, entryOf_cons, entryOf_cons]
      by_cases hname : image.outputName = name
      · rw [if_pos (lenientStrcmp_eq_zero.mpr hname), if_pos hname, Option.some_or]
      · rw [if_neg (fun he => hname (lenientStrcmp_eq_zero.mp he)), if_neg hname]
        by_cases hdefault : image.outputName = none
        · rw [hdefault] at hfresh
          rw [if_pos hdefault, if_pos hdefault, ih hnodup, entryOf_eq_none hfresh]
          rfl
        · rw [if_neg hdefault, if_neg hdefault, ih hnodup]
  rw [selectImage, hfrom none, Option.or_none]

/-! ## Runs -/

/-- A call of `load_image`. -/
structure LoadCall (σ : Type) where
  env : ImageEnv σ
  arg : CString

def LoadCall.name (c : LoadCall σ) : Option CString := (splitArg c.arg).1

/-- What `load_background_image` answers, if the call gets so far. -/
def LoadCall.image (c : LoadCall σ) : Except Fault (Option σ) := do
  let path ← expandPath c.env (splitArg c.arg).2
  .ok (c.env.loadBackgroundImage path)

/-- One call; there is no step when it aborts. -/
def loadStep (c : LoadCall σ) (images : List (SwaylockImage σ)) :
    Option (List (SwaylockImage σ)) :=
  (loadImage c.env c.arg images).toOption

/-- The monitor: the images that loaded, the last one first. -/
def noteImage (c : LoadCall σ) (_ _ : List (SwaylockImage σ)) (loaded : List (Option CString × σ)) :
    List (Option CString × σ) :=
  match c.image with
  | .ok (some surface) => (c.name, surface) :: loaded
  | _ => loaded

/-- The last image that loaded for a name. -/
def lastLoaded (loaded : List (Option CString × σ)) (name : Option CString) : Option σ :=
  (loaded.find? fun entry => entry.1 = name).map Prod.snd

/-- One entry for each name, and every surface gets the last image that loaded for its name or
else the last that loaded as the default. -/
structure ImageLaw (x : List (SwaylockImage σ) × List (Option CString × σ)) : Prop where
  nodup : (names x.1).Nodup
  select : ∀ name, selectImage x.1 name = (lastLoaded x.2 name).or (lastLoaded x.2 none)

/-- The image of the call does not load. -/
def Fails (c : LoadCall σ) : Prop := c.image = .ok none

/-- A load that fails leaves the table as it was. -/
def KeepsOnFailure (c : LoadCall σ) (images : List (SwaylockImage σ)) : Prop :=
  Fails c → ∀ t, loadStep c images = some t → t = images

/-- The load does not fail while there is an entry of its name. -/
def NothingToLose (c : LoadCall σ) (images : List (SwaylockImage σ)) : Prop :=
  Fails c → c.name ∉ names images

/-- What a call does to the table. -/
theorem loadStep_cases {c : LoadCall σ} {images t : List (SwaylockImage σ)}
    (h : loadStep c images = some t) :
    (c.image = .ok none ∧ t = without images c.name) ∨
      ∃ image, c.image = .ok (some image.cairoSurface) ∧ image.outputName = c.name ∧
        t = image :: without images c.name := by
  rw [loadStep, loadImage] at h
  rw [LoadCall.image]
  cases hpath : expandPath c.env (splitArg c.arg).2 with
  | error e =>
    simp only [hpath, error_bind] at h
    cases h
  | ok path =>
    simp only [hpath, ok_bind] at h ⊢
    cases hload : c.env.loadBackgroundImage path with
    | none =>
      simp only [hload] at h
      exact Or.inl ⟨rfl, (Option.some.inj h).symm⟩
    | some surface =>
      simp only [hload] at h
      exact Or.inr ⟨⟨path, c.name, surface⟩, rfl, rfl, (Option.some.inj h).symm⟩

theorem loadStep_of_fails {c : LoadCall σ} (h : Fails c) (images : List (SwaylockImage σ)) :
    loadStep c images = some (without images c.name) := by
  rw [Fails, LoadCall.image] at h
  rw [loadStep, loadImage]
  cases hpath : expandPath c.env (splitArg c.arg).2 with
  | error e =>
    rw [hpath, error_bind] at h
    cases h
  | ok path =>
    rw [hpath, ok_bind, Except.ok.injEq] at h
    simp only [hpath, ok_bind, h]
    rfl

/-- A failing load keeps the table exactly when there is no entry to lose. -/
theorem keepsOnFailure_iff (c : LoadCall σ) (images : List (SwaylockImage σ)) :
    KeepsOnFailure c images ↔ NothingToLose c images := by
  constructor
  · intro h hfails hmem
    exact without_ne_self hmem (h hfails _ (loadStep_of_fails hfails images))
  · intro h hfails t ht
    rw [loadStep_of_fails hfails] at ht
    rw [← Option.some.inj ht]
    exact without_eq_self (h hfails)

/-- The entries are the last images that loaded. -/
structure Current (x : List (SwaylockImage σ) × List (Option CString × σ)) : Prop where
  nodup : (names x.1).Nodup
  entry : ∀ name, entryOf x.1 name = lastLoaded x.2 name

theorem Current.law {x : List (SwaylockImage σ) × List (Option CString × σ)} (h : Current x) :
    ImageLaw x where
  nodup := h.nodup
  select name := by rw [selectImage_eq h.nodup, h.entry, h.entry]

theorem lastLoaded_cons (entry : Option CString × σ) (loaded : List (Option CString × σ))
    (name : Option CString) : lastLoaded (entry :: loaded) name =
      if entry.1 = name then some entry.2 else lastLoaded loaded name := by
  rw [lastLoaded, List.find?_cons]
  by_cases h : entry.1 = name
  · simp [h]
  · simp [h, lastLoaded]

/-- A call that has nothing to lose keeps the table current. -/
theorem Current.step {c : LoadCall σ} {x y : List (SwaylockImage σ) × List (Option CString × σ)}
    (h : Current x) (hc : NothingToLose c x.1) (hstep : monitored loadStep noteImage c x = some y) :
    Current y := by
  obtain ⟨hload, hnote⟩ := monitored_eq_some.mp hstep
  rcases loadStep_cases hload with ⟨hnone, ht⟩ | ⟨image, hsome, hname, ht⟩
  · have hsame : y.2 = x.2 := by rw [hnote, noteImage, hnone]
    rw [without_eq_self (hc hnone)] at ht
    exact ⟨ht ▸ h.nodup, fun name => by rw [ht, hsame, h.entry]⟩
  · have hcons : y.2 = (c.name, image.cairoSurface) :: x.2 := by rw [hnote, noteImage, hsome]
    constructor
    · rw [ht, names, List.map_cons, hname]
      refine List.nodup_cons.mpr ⟨?_, ?_⟩
      · rw [← names, names_without]
        exact h.nodup.not_mem_erase
      · rw [← names, names_without]
        exact h.nodup.erase _
    · intro name
      rw [ht, hcons, entryOf_cons, lastLoaded_cons, hname]
      by_cases hn : c.name = name
      · rw [if_pos hn, if_pos hn]
      · rw [if_neg hn, if_neg hn, entryOf_without (fun he => hn he.symm), h.entry]

/-- **The law of the image table.**  Along any run of loads it holds throughout, and a load that
fails changes nothing, if and only if no load fails while the table has an entry of its name. -/
theorem image_table_iff (calls : List (LoadCall σ)) :
    (Throughout (monitored loadStep noteImage) ImageLaw calls ([], []) ∧
        Along loadStep KeepsOnFailure calls []) ↔
      Along loadStep NothingToLose calls [] := by
  constructor
  · rintro ⟨-, hkeeps⟩
    exact hkeeps.mono fun c images => (keepsOnFailure_iff c images).mp
  · intro h
    refine ⟨?_, h.mono fun c images => (keepsOnFailure_iff c images).mpr⟩
    exact throughout_of_along (I := Current)
      (fun c x y hx hc hstep => hx.step hc hstep) (fun _ hx => hx.law)
      ⟨List.nodup_nil, fun _ => rfl⟩ (along_monitored h)

/-- An environment in which one path has an image. -/
def onePath (path : CString) : ImageEnv Nat where
  shell := plainExpander
  loadBackgroundImage p := if p = path then some 1 else none

/-- An image for an output, then one for the same output that does not load: the output has no
image any more. -/
theorem not_image_law : ¬ ∀ calls : List (LoadCall Nat),
    Throughout (monitored loadStep noteImage) ImageLaw calls ([], []) ∧
      Along loadStep KeepsOnFailure calls [] := by
  intro hall
  have hlaw := (hall [⟨onePath (ascii "a"), ascii "DP-1:a"⟩,
    ⟨onePath (ascii "a"), ascii "DP-1:b"⟩]).1
    _ (List.prefix_refl _) ([], [(some (ascii "DP-1"), 1)]) rfl
  have hselect := hlaw.select (some (ascii "DP-1"))
  revert hselect
  decide

end SwaylockAuthd
