import VerifierApi.ServiceBoot

/-!
# No handle is leaked

The constructors own the handles they open: what they return holds them, and
what fails has closed them, except a database connection which cannot be
unwrapped.  The module inherits this from its services, and a shutdown closes
what is left.
-/

namespace VerifierApi

variable {b : Backends} {lib : ConfigLibrary} {env : EnvConfig}

/-- A connection which cannot be unwrapped can neither be configured nor
closed. -/
def Unclosable (b : Backends) (handle : Handle) : Prop :=
  b.sqlDB handle ≠ .ok ()

theorem closeDB_events {handle : Handle} (h : b.sqlDB handle = .ok ()) :
    (closeDB b handle).events = [.closed handle] := by
  simp [closeDB, h]

theorem initServiceDB_owns (db : ServiceDB) (service : ℕ) (url : String) :
    Owns (Unclosable b) 0 (initServiceDB b db service url)
      (fun handle => {handle}) 0 := by
  constructor
  · intro handle hok
    obtain ⟨hopens, rfl⟩ := initServiceDB_eq_ok_iff.mp hok
    have hconnected := DBOptions.attempts_connected_iff.mpr hopens.connects
    simp [initServiceDB, initDBWithRetries, hconnected, heldAfter]
  · intro err herr
    simp only [initServiceDB, initDBWithRetries] at herr ⊢
    split_ifs at herr ⊢ with hconnected
    · refine ⟨{⟨service, .database db⟩}, ?_, by simp [heldAfter]⟩
      intro handle hmem hunwraps
      rw [Multiset.mem_singleton] at hmem
      subst hmem
      rw [hunwraps] at herr
      cases herr
    · exact ⟨0, by simp, by simp [heldAfter]⟩

theorem dialFlare_owns (service : ℕ) (rpcURL : String) :
    Owns (Unclosable b) 0 (dialFlare b service rpcURL)
      (fun handle => {handle}) 0 := by
  unfold dialFlare
  cases hdial : b.dial ⟨service, .flareRPC⟩ rpcURL with
  | error err =>
      simp only [hdial]
      exact .of_events_nil rfl (fun _ hok => by cases hok) fun _ _ => rfl
  | ok u =>
      simp only [hdial]
      constructor
      · intro handle hok
        obtain rfl := Except.ok.inj hok
        simp [heldAfter]
      · intro err herr
        cases herr

/-- A caller that cannot be built takes its connection with it. -/
theorem caller_owns {ε : Type} {x : Except ε Unit} {client : Handle} :
    Owns (Unclosable b) {client}
      ((Traced.ofExcept x).onError [.closed client])
      (fun _ => {client}) 0 :=
  .cleanup (.ofExcept x _ fun _ _ => rfl)
    (heldAfter_closed_cons client 0)

theorem newOnChainBinder_owns (service : ℕ) (rpcURL : String)
    (contractAddr : Address) :
    Owns (Unclosable b) 0 (newOnChainBinder b service rpcURL contractAddr)
      (fun handle => {handle}) 0 :=
  (dialFlare_owns service rpcURL).bind fun client _ =>
    caller_owns.bind fun _ _ => .pure client rfl

theorem newTeeVerifier_owns (cfg : TeeAvailabilityCheckConfig)
    (service : ℕ) :
    Owns (Unclosable b) 0 (newTeeVerifier b cfg service)
      (fun handle => {handle}) 0 := by
  refine (dialFlare_owns service cfg.flareRPCURL).bind fun client _ =>
    caller_owns.bind fun _ _ => ?_
  split_ifs
  · exact caller_owns.bind fun _ _ => .pure client rfl
  · exact .pure client rfl

theorem unwraps_of_initServiceDB {db : ServiceDB} {service : ℕ}
    {url : String} {handle : Handle} {g : GoError → GoError}
    (h : ((initServiceDB b db service url).mapError g).result = .ok handle) :
    b.sqlDB handle = .ok () := by
  rw [Traced.result_mapError, mapError_eq_ok, initServiceDB_eq_ok_iff] at h
  obtain ⟨hopens, rfl⟩ := h
  exact hopens.unwraps

theorem newPMWService_owns {S T : Type} (t : AttestationType)
    (service : ℕ) (config : Except GoError (PMWConfig S T)) :
    Owns (Unclosable b) 0 (newPMWService b t service config)
      (fun s => ↑s.handles) 0 := by
  refine (Owns.ofExcept _ (fun _ => 0) fun _ _ => rfl).bind fun cfg _ =>
    (Owns.ofExcept _ (fun _ => 0) fun _ _ => rfl).bind fun _ _ =>
    (initServiceDB_owns .source service _).mapError.bind
      fun dataBase hdataBase => ?_
  have hclosesDB := closeDB_events (unwraps_of_initServiceDB hdataBase)
  have hcChain : Owns (Unclosable b) {dataBase}
      (initServiceDB b .cChain service cfg.cchainDatabaseURL)
      (fun cchainDB => {dataBase} + {cchainDB}) {dataBase} := by
    simpa using (initServiceDB_owns .cChain service _).frame {dataBase}
  have hrollback : heldAfter {dataBase} (closeDB b dataBase).events =
      some 0 := by
    rw [hclosesDB]
    exact heldAfter_closed_cons dataBase 0
  refine (hcChain.mapError.cleanup hrollback).bind
    fun cchainDB hcchainDB => ?_
  have hclosesCChain := closeDB_events (unwraps_of_initServiceDB hcchainDB)
  have hbinder : Owns (Unclosable b) ({dataBase} + {cchainDB})
      (newOnChainBinder b service cfg.flareRPCURL
        cfg.teePaymentsContractAddress)
      (fun binder => {dataBase} + {cchainDB} + {binder})
      ({dataBase} + {cchainDB}) := by
    simpa using (newOnChainBinder_owns service _ _).frame
      ({dataBase} + {cchainDB})
  have hrollbackBoth : heldAfter ({dataBase} + {cchainDB})
      ((closeDB b dataBase).events ++ (closeDB b cchainDB).events) =
        some 0 := by
    rw [hclosesDB, hclosesCChain]
    exact (heldAfter_append (heldAfter_closed_cons dataBase {cchainDB})
      _).trans (heldAfter_closed_cons cchainDB 0)
  exact (hbinder.mapError.cleanup hrollbackBoth).bind fun binder _ =>
    .pure _ rfl

/-- The handles of a service, closed by its closer. -/
def Closes (b : Backends) (service : RegisteredService) : Prop :=
  heldAfter ↑service.handles (service.close b).events = some 0

theorem PMWService.closes {S T : Type} {s : PMWService S T} {name : String}
    (hdb : b.sqlDB s.db = .ok ()) (hcdb : b.sqlDB s.cdb = .ok ()) :
    heldAfter ↑s.handles (s.close b name).events = some 0 := by
  simp only [PMWService.close, PMWService.handles, closeDB_events hdb,
    closeDB_events hcdb]
  simp [heldAfter, ← Multiset.cons_coe]

theorem ServiceLoads.closes {n : ℕ} {service : RegisteredService}
    (h : ServiceLoads b lib env n service) : Closes b service := by
  cases h with
  | teeAvailabilityCheck cfg hconfig hloads =>
      exact heldAfter_closed_cons _ 0
  | pmwPaymentStatus cfg hconfig hloads =>
      exact PMWService.closes hloads.sourceDB.unwraps hloads.cChainDB.unwraps
  | pmwMultisigAccountConfigured cfg hconfig hsource hnetwork => rfl
  | pmwFeeProof cfg hconfig hloads =>
      exact PMWService.closes hloads.sourceDB.unwraps hloads.cChainDB.unwraps

theorem registerVerifier_owns (t : AttestationType) (n : ℕ) :
    Owns (Unclosable b) 0 (registerVerifier b lib env t n)
      (fun service => ↑service.handles) 0 := by
  cases t with
  | availabilityCheck =>
      have hloads : Owns (Unclosable b) 0
          (newTeeAvailabilityService b lib env n)
          (fun loaded => {loaded.2}) 0 :=
        (Owns.ofExcept _ (fun _ => 0) fun _ _ => rfl).bind fun cfg _ =>
          (newTeeVerifier_owns cfg n).mapError.bind fun client _ =>
            .pure _ rfl
      exact hloads.bind fun loaded _ => .pure _ rfl
  | pmwPaymentStatus =>
      exact (newPMWService_owns _ n _).bind fun payments _ => .pure _ rfl
  | pmwMultisigAccountConfigured =>
      exact (Owns.ofExcept _ (fun _ => 0) fun _ _ => rfl).bind
        fun cfg _ => .pure _ rfl
  | pmwFeeProof =>
      exact (newPMWService_owns _ n _).bind fun fees _ => .pure _ rfl

/-! ## The module -/

def handlesOf (services : List RegisteredService) : List Handle :=
  services.flatMap RegisteredService.handles

theorem heldAfter_closeAll {services : List RegisteredService}
    (h : ∀ service ∈ services, Closes b service) :
    heldAfter ↑(handlesOf services) (closeAll b services) = some 0 := by
  induction services with
  | nil => rfl
  | cons service rest ih =>
      rw [List.forall_mem_cons] at h
      have hown := heldAfter_frame h.1 ↑(handlesOf rest)
      have hlist : (↑(handlesOf (service :: rest)) : Multiset Handle) =
          ↑(handlesOf rest) + ↑service.handles := by
        rw [handlesOf, List.flatMap_cons, ← Multiset.coe_add, add_comm]
        rfl
      rw [closeAll, List.flatMap_cons, hlist, heldAfter_append hown,
        add_zero]
      exact ih h.2

theorem loadServices_owns {loaded : List RegisteredService}
    (hloaded : ∀ service ∈ loaded, Closes b service)
    (types : List AttestationType) :
    Owns (Unclosable b) ↑(handlesOf loaded)
      (loadServices b lib env loaded types)
      (fun services => ↑(handlesOf services)) 0 := by
  induction types generalizing loaded with
  | nil => exact .pure loaded rfl
  | cons t rest ih =>
      rw [loadServices]
      have hnew : Owns (Unclosable b) ↑(handlesOf loaded)
          (registerVerifier b lib { env with attestationType := some t } t
            loaded.length)
          (fun service => ↑(handlesOf (loaded ++ [service])))
          ↑(handlesOf loaded) := by
        have hown : Owns (Unclosable b) 0
            (registerVerifier b lib { env with attestationType := some t } t
              loaded.length) (fun service => ↑service.handles) 0 :=
          registerVerifier_owns t loaded.length
        simpa [handlesOf] using hown.frame ↑(handlesOf loaded)
      refine (hnew.cleanup (heldAfter_closeAll hloaded)).bind
        fun service hservice => ih ?_
      rw [Traced.result_onError, registerVerifier_eq_ok_iff] at hservice
      intro other hmem
      rcases List.mem_append.mp hmem with hold | hlast
      · exact hloaded other hold
      · rw [List.mem_singleton] at hlast
        subst hlast
        exact hservice.2.closes

theorem loadModule_owns :
    Owns (Unclosable b) 0 (loadModule b lib env)
      (fun services => ↑(handlesOf services)) 0 :=
  (Owns.ofExcept _ (fun _ => 0) fun _ _ => rfl).bind fun _ _ =>
    loadServices_owns (fun _ hmem => absurd hmem List.not_mem_nil) _

/-- A module that loads holds the handles of its services and nothing else,
and a shutdown closes each of them once, whatever fails on the way.  A module
that fails to load has closed what it opened, except connections which cannot
be unwrapped. -/
theorem loadModule_handles (b : Backends) (lib : ConfigLibrary)
    (env : EnvConfig) :
    let load := loadModule b lib env
    (∀ services, load.result = .ok services →
      heldAfter 0 load.events = some ↑(handlesOf services) ∧
      ∀ handle, (load.events ++ shutdownServer b services).count
          (.closed handle) =
        (load.events ++ shutdownServer b services).count (.opened handle)) ∧
    ∀ err, load.result = .error err → ∃ lost,
      (∀ handle ∈ lost, b.sqlDB handle ≠ .ok ()) ∧
        heldAfter 0 load.events = some lost := by
  intro load
  have howns : Owns (Unclosable b) 0 load
      (fun services => ↑(handlesOf services)) 0 := loadModule_owns
  constructor
  · intro services hservices
    have hheld := howns.ok services hservices
    refine ⟨hheld, fun handle => ?_⟩
    have hcloses : ∀ service ∈ services, Closes b service := by
      intro service hmem
      obtain ⟨i, hi, rfl⟩ := List.getElem_of_mem hmem
      obtain ⟨-, -, hall⟩ := loadModule_eq_ok_iff.mp hservices
      exact (hall i hi).closes
    have hshutdown : heldAfter 0 (load.events ++ shutdownServer b services) =
        some 0 :=
      (heldAfter_append hheld _).trans (heldAfter_closeAll hcloses)
    simpa using count_of_heldAfter hshutdown handle
  · intro err herr
    obtain ⟨lost, hlost, hheld⟩ := howns.error err herr
    exact ⟨lost, hlost, by rw [hheld, zero_add]⟩

end VerifierApi
