import SupplyCatalog.Proofs.ImageFile

/-!
# Updates side by side

Several updates of one company may be under way at a time. The first step of each is a transaction;
the second removes the image that the first has left behind, and others may have had their turns in
between. So the file that goes may by then be the image of the company again. This is the only way
in which such updates lose an image.
-/

namespace SupplyCatalog

/-! ## The two steps of an update -/

/-- The path of the file that an update is still to remove. -/
def Store.CompanyUpdate.abandoned (update : CompanyUpdate) : Option String :=
  if update.saved.company.image = update.previousImage then none else update.previousImage

theorem Store.CompanyUpdate.mem_abandoned_iff (update : CompanyUpdate) (path : String) :
    path ∈ update.abandoned ↔
      update.saved.company.image ≠ update.previousImage ∧ path ∈ update.previousImage := by
  unfold abandoned
  split <;> simp_all

namespace Store

variable (store : Store) (pk : Int) (changes : CompanyChanges) (image : Option CompanyImage)

theorem settle_company_update_eq (update : CompanyUpdate) :
    store.settleCompanyUpdate update = store.removeFile update.abandoned := by
  unfold settleCompanyUpdate CompanyUpdate.abandoned
  split <;> rfl

/-- How the first step of an update may end. -/
inductive Begins : Except ServiceError CompanyUpdate × Store → Prop
  | done {company : Company} {media : MediaTree} {update : CompanyUpdate}
      (found : store.database.companies.find? pk = some company)
      (allowed : Change.AreAllowed store.database
        [.writeCompany (.set (company.changed changes image))])
      (kept : store.media.keep (image.map (CompanyImage.file pk)) = (.ok (), media))
      (saved : update.saved.company = company.changed changes image)
      (previous : update.previousImage = company.image) :
      Begins (.ok update, ⟨Change.applyAll store.database
        [.writeCompany (.set (company.changed changes image))], media⟩)
  | failed {media : MediaTree} (failure : ServiceError)
      (same : media.files = store.media.files) : Begins (.error failure, { store with media })

theorem begin_company_update_begins :
    store.Begins pk changes image (store.beginCompanyUpdate pk changes image) := by
  unfold beginCompanyUpdate
  cases found : store.database.companies.find? pk with
  | none =>
      rw [Table.wanted_of_absent _ found]
      exact .failed _ rfl
  | some company =>
      obtain rfl : company.pk = pk := Table.pk_of_find found
      rw [Table.wanted_of_find _ found]
      have writes := Operation.changed_company_writes found changes image
      dsimp only
      generalize store.write (store.database.draftChangedCompany company changes image) = outcome
        at writes ⊢
      cases writes with
      | done asked allowed kept =>
          obtain ⟨makes, rfl, saved⟩ := asked
          cases makes with
          | updateCompany there =>
              obtain rfl := Option.some.inj (found.symm.trans there)
              exact .done found allowed kept saved rfl
      | refused failure expected => exact .failed failure rfl
      | unwritten error asked kept => exact .failed _ (MediaTree.files_of_failed_keep kept)

end Store

/-! ## Turns -/

/-- How far an update has come. -/
inductive Progress
  | waiting (changes : CompanyChanges) (image : Option CompanyImage)
  | begun (update : Store.CompanyUpdate)
  | finished

def Progress.advance (pk : Int) (store : Store) : Progress → Progress × Store
  | waiting changes image =>
      match store.beginCompanyUpdate pk changes image with
      | (.ok update, store) => (begun update, store)
      | (.error _, store) => (finished, store)
  | begun update => (finished, store.settleCompanyUpdate update)
  | finished => (finished, store)

/-- What the next step makes the image of the company, unless it leaves the image alone. -/
def Progress.given (pk : Int) (store : Store) : Progress → Option (Option String)
  | waiting changes image =>
      if image.isSome || changes.clearImage then
        (store.beginCompanyUpdate pk changes image).1.toOption.map (·.saved.company.image)
      else none
  | _ => none

/-- A store and the updates of one company that are under way. -/
structure Updating where
  store : Store
  requests : List Progress

namespace Updating

def start (store : Store) (requests : List (CompanyChanges × Option CompanyImage)) : Updating :=
  ⟨store, requests.map fun request => .waiting request.1 request.2⟩

def take (state : Updating) (pk : Int) (index : Nat) : Updating :=
  match state.requests[index]? with
  | none => state
  | some progress =>
      let (next, store) := progress.advance pk state.store
      ⟨store, state.requests.set index next⟩

/-- The updates take their steps in some order. -/
def run (state : Updating) (pk : Int) (turns : List Nat) : Updating :=
  turns.foldl (·.take pk ·) state

def given (state : Updating) (pk : Int) (index : Nat) : Option (Option String) :=
  state.requests[index]?.bind (Progress.given pk state.store)

def IsFinished (state : Updating) : Prop := ∀ progress ∈ state.requests, progress = .finished

def IsToRemove (state : Updating) (place : MediaPath) : Prop :=
  ∃ update, .begun update ∈ state.requests ∧ ∃ path ∈ update.abandoned,
    MediaPath.ofText path = place

def ShowsImage (state : Updating) (pk : Int) : Prop :=
  ∀ company, state.store.database.companies.find? pk = some company → ∀ path ∈ company.image,
    state.store.media.isFile (MediaPath.ofText path) = true

/-- The image is lost when it is saved where another update has yet to remove a file, and is so
until it is replaced or dropped. -/
inductive Loses (state : Updating) (pk : Int) : List Nat → Prop
  | saved {turns : List Nat} {index : Nat} {path : String}
      (given : (state.run pk turns).given pk index = some (some path))
      (removed : (state.run pk turns).IsToRemove (MediaPath.ofText path)) :
      Loses state pk (turns ++ [index])
  | left {turns : List Nat} {index : Nat} (lost : Loses state pk turns)
      (alone : (state.run pk turns).given pk index = none) : Loses state pk (turns ++ [index])

/-- The image is there, and no update is about to remove it. -/
def KeepsImage (state : Updating) (pk : Int) : Prop :=
  ∀ company, state.store.database.companies.find? pk = some company → ∀ path ∈ company.image,
    state.store.media.isFile (MediaPath.ofText path) = true ∧
      ¬ state.IsToRemove (MediaPath.ofText path)

/-! ## One turn -/

variable {state : Updating} {pk : Int} {index : Nat}

/-- Updates that have not yet begun or have finished remove nothing. -/
theorem is_to_remove_of_finished (finished : state.IsFinished) (place : MediaPath) :
    ¬ state.IsToRemove place := by
  rintro ⟨update, member, _⟩
  cases finished _ member

theorem shows_image_iff_of_finished (finished : state.IsFinished) :
    state.ShowsImage pk ↔ state.KeepsImage pk := by
  have none := is_to_remove_of_finished finished
  simp only [ShowsImage, KeepsImage, none, not_false_iff, and_true]

theorem mem_set_iff {α : Type} {list : List α} {old : α} (new : α)
    (here : list[index]? = some old) (value : α) :
    value ∈ list.set index new ∨ value = old ↔ value ∈ list ∨ value = new := by
  obtain ⟨bound, here⟩ := List.getElem?_eq_some_iff.1 here
  have parts : list = list.take index ++ old :: list.drop (index + 1) := by
    rw [← here, List.getElem_cons_drop, List.take_append_drop]
  have changed := List.set_eq_take_append_cons_drop (l := list) (i := index) (a := new)
  rw [if_pos bound] at changed
  rw [changed]
  conv_rhs => rw [parts]
  simp only [List.mem_append, List.mem_cons]
  tauto

inductive Takes (state : Updating) (pk : Int) (index : Nat) (after : Updating) : Prop
  | idle (database : after.store.database = state.store.database)
      (files : after.store.media.files = state.store.media.files)
      (removes : ∀ place, after.IsToRemove place ↔ state.IsToRemove place)
      (given : state.given pk index = none)
  | began {company : Company} {media : MediaTree} (changes : CompanyChanges)
      (image : Option CompanyImage)
      (found : state.store.database.companies.find? pk = some company)
      (allowed : Change.AreAllowed state.store.database
        [.writeCompany (.set (company.changed changes image))])
      (kept : state.store.media.keep (image.map (CompanyImage.file pk)) = (.ok (), media))
      (store : after.store = ⟨Change.applyAll state.store.database
        [.writeCompany (.set (company.changed changes image))], media⟩)
      (removes : ∀ place, after.IsToRemove place ↔ state.IsToRemove place ∨
        (company.changed changes image).image ≠ company.image ∧
          ∃ path ∈ company.image, MediaPath.ofText path = place)
      (given : state.given pk index =
        if image.isSome || changes.clearImage then some (company.changed changes image).image
        else none)
  | settled (abandoned : Option String) (store : after.store = state.store.removeFile abandoned)
      (removes : ∀ place, state.IsToRemove place ↔ after.IsToRemove place ∨
        ∃ path ∈ abandoned, MediaPath.ofText path = place)
      (given : state.given pk index = none)

/-- What is to be removed changes with the one update that has its turn. -/
theorem is_to_remove_set_iff {before : Progress} (after : Progress) (store : Store)
    (here : state.requests[index]? = some before) (place : MediaPath) :
    (Updating.mk store (state.requests.set index after)).IsToRemove place ∨
        (∃ update, before = .begun update ∧ ∃ path ∈ update.abandoned,
          MediaPath.ofText path = place) ↔
      state.IsToRemove place ∨
        ∃ update, after = .begun update ∧ ∃ path ∈ update.abandoned,
          MediaPath.ofText path = place := by
  have member := fun update => mem_set_iff after here (Progress.begun update)
  simp only [IsToRemove, ← exists_or, ← or_and_right, eq_comm (b := Progress.begun _), member]

theorem take_takes (state : Updating) (pk : Int) (index : Nat) :
    state.Takes pk index (state.take pk index) := by
  unfold take
  cases here : state.requests[index]? with
  | none => exact .idle rfl rfl (fun _ => Iff.rfl) (by rw [given, here]; rfl)
  | some progress =>
      have removes := fun after store => is_to_remove_set_iff after store here
      have given : state.given pk index = progress.given pk state.store := by
        rw [given, here, Option.bind_some]
      cases progress with
      | finished =>
          dsimp only [Progress.advance]
          refine .idle rfl rfl (fun place => ?_) given
          simpa using removes .finished state.store place
      | begun update =>
          dsimp only [Progress.advance]
          refine .settled update.abandoned (state.store.settle_company_update_eq update)
            (fun place => ?_) given
          simpa using (removes .finished (state.store.settleCompanyUpdate update) place).symm
      | waiting changes image =>
          have begins := state.store.begin_company_update_begins pk changes image
          rw [Progress.given] at given
          dsimp only [Progress.advance]
          generalize state.store.beginCompanyUpdate pk changes image = outcome at begins given ⊢
          cases begins with
          | done found allowed kept saved previous =>
              rename_i update
              refine .began changes image found allowed kept rfl (fun place => ?_) ?_
              · have began := removes (.begun update) state.store place
                simp only [reduceCtorEq, false_and, exists_false, or_false, Progress.begun.injEq,
                  exists_eq_left', update.mem_abandoned_iff, saved, previous, and_assoc,
                  exists_and_left] at began
                exact began
              · rw [given, ← saved]
                rfl
          | failed failure same =>
              refine .idle rfl same (fun place => ?_) ?_
              · simpa using removes .finished _ place
              · simpa [Except.toOption] using given

/-! ## The image after a turn -/

theorem take_has_image_places (places : state.store.database.HasImagePlaces) :
    (state.take pk index).store.database.HasImagePlaces := by
  cases state.take_takes pk index with
  | idle database files removes given =>
      rw [database]
      exact places
  | began changes image found allowed kept store removes given =>
      rw [store]
      have member := Table.mem_of_find found
      exact places.apply allowed.1
        (Operation.placed_image_after (places _ member) changes image)
  | settled abandoned store removes given =>
      rw [store, Store.database_remove_file]
      exact places

theorem keeps_image_iff {company : Company}
    (found : state.store.database.companies.find? pk = some company) :
    state.KeepsImage pk ↔ ∀ path ∈ company.image,
      state.store.media.isFile (MediaPath.ofText path) = true ∧
        ¬ state.IsToRemove (MediaPath.ofText path) := by
  unfold KeepsImage
  rw [found]
  simp

/-- The image that is left behind lies elsewhere than the new one. -/
theorem image_left_is_apart {company : Company}
    (placed : ∀ path ∈ company.image, ∃ format, path = CompanyImage.path company.pk format)
    {changes : CompanyChanges} {image : Option CompanyImage}
    (different : (company.changed changes image).image ≠ company.image) {old new : String}
    (left : old ∈ company.image) (saved : new ∈ (company.changed changes image).image) :
    MediaPath.ofText old ≠ MediaPath.ofText new := by
  intro same
  obtain ⟨format, rfl⟩ := placed old left
  obtain ⟨other, rfl⟩ := Operation.placed_image_after placed changes image new saved
  obtain ⟨_, rfl⟩ := CompanyImage.place_injective same
  exact different (Eq.trans saved left.symm)

theorem is_file_of_saved {company : Company} (key : company.pk = pk) {changes : CompanyChanges}
    {image : Option CompanyImage} {tree media : MediaTree}
    (changed : (image.isSome || changes.clearImage) = true)
    (kept : tree.keep (image.map (CompanyImage.file pk)) = (.ok (), media)) {path : String}
    (saved : path ∈ (company.changed changes image).image) :
    media.isFile (MediaPath.ofText path) = true := by
  cases image with
  | none => simp_all [Company.changed, Company.imageAfter]
  | some picture =>
      obtain rfl : CompanyImage.path company.pk picture.format = path := Option.some.inj saved
      have reads := MediaTree.read_keep_own rfl kept
      rw [← key] at reads
      exact Option.isSome_iff_exists.2 ⟨_, reads⟩

/-- An image that is saved is there to stay unless another update has yet to remove the file. -/
theorem keeps_image_of_given (places : state.store.database.HasImagePlaces)
    {image : Option String} (given : state.given pk index = some image) :
    (state.take pk index).KeepsImage pk ↔
      ∀ path ∈ image, ¬ state.IsToRemove (MediaPath.ofText path) := by
  cases state.take_takes pk index with
  | idle database files removes none => cases none.symm.trans given
  | settled abandoned store removes none => cases none.symm.trans given
  | @began company media changes picture found allowed kept store removes saved =>
      rw [saved] at given
      split at given
      swap
      · cases given
      rename_i changed
      cases given
      have written : (state.take pk index).store.database.companies.find? pk =
          some (company.changed changes picture) := by
        rw [store]
        exact Table.find_replace_of_find found rfl
      rw [keeps_image_iff written]
      refine forall₂_congr fun path member => ?_
      have apart : ¬ ((company.changed changes picture).image ≠ company.image ∧
          ∃ old ∈ company.image, MediaPath.ofText old = MediaPath.ofText path) := by
        rintro ⟨different, old, left, same⟩
        have placed := places company (Table.mem_of_find found)
        exact image_left_is_apart placed different left member same
      have file : (state.take pk index).store.media.isFile (MediaPath.ofText path) = true := by
        rw [store]
        exact is_file_of_saved (Table.pk_of_find found) changed kept member
      rw [removes, or_iff_left apart, and_iff_right file]

theorem image_of_unchanged (company : Company) {changes : CompanyChanges}
    {image : Option CompanyImage} (unchanged : (image.isSome || changes.clearImage) = false) :
    image = none ∧ (company.changed changes image).image = company.image := by
  cases image with
  | none => simp_all [Company.changed, Company.imageAfter]
  | some picture => cases unchanged

theorem is_file_remaining_iff {store : Store} {abandoned : Option String} {place : MediaPath} :
    (store.removeFile abandoned).media.isFile place = true ↔
      store.media.isFile place = true ∧ ¬ ∃ path ∈ abandoned, MediaPath.ofText path = place := by
  unfold MediaTree.isFile
  by_cases gone : ∃ path ∈ abandoned, MediaPath.ofText path = place
  · obtain ⟨path, member, rfl⟩ := gone
    rw [Store.read_removed member]
    exact iff_of_false Bool.false_ne_true fun both => both.2 ⟨path, member, rfl⟩
  · rw [Store.read_remaining fun path member same => gone ⟨path, member, same⟩]
    exact (and_iff_left gone).symm

/-- An image that is left alone stays as safe as it is. -/
theorem keeps_image_of_alone (alone : state.given pk index = none) :
    (state.take pk index).KeepsImage pk ↔ state.KeepsImage pk := by
  cases state.take_takes pk index with
  | idle database files removes none =>
      unfold KeepsImage MediaTree.isFile
      simp only [database, MediaTree.read_congr files, removes]
  | settled abandoned store removes none =>
      unfold KeepsImage
      rw [store, Store.database_remove_file]
      refine forall₂_congr fun company found => forall₂_congr fun path member => ?_
      rw [is_file_remaining_iff, removes, not_or, and_assoc]
      exact and_congr_right fun _ => and_comm
  | @began company media changes picture found allowed kept store removes saved =>
      rw [saved] at alone
      split at alone
      · cases alone
      rename_i unchanged
      obtain ⟨rfl, image⟩ := image_of_unchanged company (Bool.eq_false_iff.2 unchanged)
      have written : (state.take pk index).store.database.companies.find? pk =
          some (company.changed changes none) := by
        rw [store]
        exact Table.find_replace_of_find found rfl
      have media : (state.take pk index).store.media = state.store.media := by
        cases kept
        rw [store]
      rw [keeps_image_iff written, keeps_image_iff found, media, image]
      simp only [removes, image, ne_eq, not_true, false_and, or_false]

/-! ## All turns -/

theorem run_append (turns : List Nat) (index : Nat) :
    state.run pk (turns ++ [index]) = (state.run pk turns).take pk index := by
  simp [run]

theorem loses_append_iff (turns : List Nat) (index : Nat) :
    state.Loses pk (turns ++ [index]) ↔
      (∃ path, (state.run pk turns).given pk index = some (some path) ∧
        (state.run pk turns).IsToRemove (MediaPath.ofText path)) ∨
      state.Loses pk turns ∧ (state.run pk turns).given pk index = none := by
  constructor
  · intro loses
    generalize whole : turns ++ [index] = all at loses
    cases loses with
    | saved given removed =>
        obtain ⟨rfl, same⟩ := List.append_inj' whole rfl
        obtain rfl := List.singleton_inj.1 same
        exact .inl ⟨_, given, removed⟩
    | left lost alone =>
        obtain ⟨rfl, same⟩ := List.append_inj' whole rfl
        obtain rfl := List.singleton_inj.1 same
        exact .inr ⟨lost, alone⟩
  · rintro (⟨path, given, removed⟩ | ⟨lost, alone⟩)
    · exact .saved given removed
    · exact .left lost alone

theorem run_has_image_places (places : state.store.database.HasImagePlaces) (turns : List Nat) :
    (state.run pk turns).store.database.HasImagePlaces := by
  induction turns using List.reverseRecOn with
  | nil => exact places
  | append_singleton turns index induction =>
      rw [run_append]
      exact take_has_image_places induction

theorem run_keeps_image_iff (places : state.store.database.HasImagePlaces)
    (keeps : state.KeepsImage pk) (turns : List Nat) :
    (state.run pk turns).KeepsImage pk ↔ ¬ state.Loses pk turns := by
  induction turns using List.reverseRecOn with
  | nil =>
      refine iff_of_true keeps ?_
      generalize none : ([] : List Nat) = turns
      rintro (_ | _) <;> simp at none
  | append_singleton turns index induction =>
      rw [run_append, loses_append_iff]
      cases given : (state.run pk turns).given pk index with
      | none =>
          rw [keeps_image_of_alone given, induction]
          simp
      | some image =>
          rw [keeps_image_of_given (run_has_image_places places turns) given]
          cases image <;> simp

end Updating

namespace Store

/-- Any number of updates of one company, in any order of their steps: when all of them have come to
an end, the path in the row leads to a file unless the image was saved last while another update had
yet to remove that file. -/
theorem image_survives_updates_iff (operations : List Operation)
    (wellNamed : ∀ operation ∈ operations, operation.IsWellNamed) (pk : Int)
    (requests : List (CompanyChanges × Option CompanyImage)) (turns : List Nat) :
    let start := Updating.start (empty.after operations) requests
    (start.run pk turns).IsFinished →
      ((start.run pk turns).ShowsImage pk ↔ ¬ start.Loses pk turns) := by
  intro start finished
  rw [Updating.shows_image_iff_of_finished finished]
  apply Updating.run_keeps_image_iff (has_image_places_after operations)
  intro company found path given
  constructor
  · have shows := shows_images_after operations wellNamed
    obtain ⟨_, _, reads⟩ := shows.read_shown (Table.mem_of_find found) given
    exact Option.isSome_iff_exists.2 ⟨_, reads⟩
  · rintro ⟨update, member, _⟩
    obtain ⟨request, _, other⟩ := List.mem_map.1 member
    cases other

end Store

/-! ## Two updates of a company with an image -/

namespace SmallCatalogue

/-- One update drops the image of the company, and another brings one of the same format. -/
def dropAndSave : Updating :=
  .start (Store.empty.after picturedRun)
    [({ noChanges with clearImage := true }, none), (noChanges, some drawing)]

theorem finished_in_turn : (dropAndSave.run 1 [0, 0, 1, 1]).IsFinished := by
  have requests : (dropAndSave.run 1 [0, 0, 1, 1]).requests = [.finished, .finished] := by rfl
  simp [Updating.IsFinished, requests]

theorem finished_side_by_side : (dropAndSave.run 1 [0, 1, 1, 0]).IsFinished := by
  have requests : (dropAndSave.run 1 [0, 1, 1, 0]).requests = [.finished, .finished] := by rfl
  simp [Updating.IsFinished, requests]

theorem shows_image_in_turn : (dropAndSave.run 1 [0, 0, 1, 1]).ShowsImage 1 := by
  have row : ((dropAndSave.run 1 [0, 0, 1, 1]).store.database.companies.find? 1).bind (·.image) =
      some "company_images/company_1_image.png" := by
    decide +kernel
  intro company found path given
  rw [found, Option.bind_some] at row
  obtain rfl := Option.mem_unique row given
  decide +kernel

end SmallCatalogue

open SmallCatalogue in
/-- No image is lost when the second update begins after the first has come to its end. -/
theorem image_survives_in_turn :
    (∀ operation ∈ picturedRun, operation.IsWellNamed) ∧
      (dropAndSave.run 1 [0, 0, 1, 1]).IsFinished ∧ ¬ dropAndSave.Loses 1 [0, 0, 1, 1] :=
  ⟨pictured_run_is_well_named, finished_in_turn,
    (Store.image_survives_updates_iff picturedRun pictured_run_is_well_named 1 _ [0, 0, 1, 1]
      finished_in_turn).1 shows_image_in_turn⟩

open SmallCatalogue in
/-- The first update takes away the file that the second one has just written. -/
theorem image_lost_between_updates :
    ¬ ∀ operations : List Operation, (∀ operation ∈ operations, operation.IsWellNamed) →
      ∀ pk requests turns,
        ((Updating.start (Store.empty.after operations) requests).run pk turns).IsFinished →
          ((Updating.start (Store.empty.after operations) requests).run pk turns).ShowsImage
            pk := by
  intro always
  have shows : (dropAndSave.run 1 [0, 1, 1, 0]).ShowsImage 1 :=
    always picturedRun pictured_run_is_well_named 1 _ [0, 1, 1, 0] finished_side_by_side
  have row : ((dropAndSave.run 1 [0, 1, 1, 0]).store.database.companies.find? 1).bind (·.image) =
      some "company_images/company_1_image.png" := by
    decide +kernel
  obtain ⟨company, found, given⟩ := Option.bind_eq_some_iff.1 row
  have file := shows company found _ given
  have gone : (dropAndSave.run 1 [0, 1, 1, 0]).store.media.isFile
      (MediaPath.ofText "company_images/company_1_image.png") = false := by
    decide +kernel
  exact Bool.false_ne_true (gone.symm.trans file)

end SupplyCatalog
