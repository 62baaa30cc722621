import OAuthClientBridge.Views.Lockstep

/-! A history of requests, one after the other, and what two such histories have in common. -/

namespace OAuthClientBridge
open Python Effect Program

structure Arrival where
  request : Request
  session : String → Option String

structure Reply where
  result : Except Exc Response
  session : String → Option String

section
variable {τ : Type} (P : Platform τ) (s : Settings)

def serveOne (a : Arrival) (w : World P.fernet) : Reply × World P.fernet :=
  let outcome := (respond P s a.request).eval World.answer { w with session := a.session }
  (⟨outcome.result, outcome.world.session⟩, outcome.world)

def serveAll : List Arrival → World P.fernet → List Reply × World P.fernet
  | [], w => ([], w)
  | a :: arrivals, w =>
    let (reply, w) := serveOne P s a w
    let (replies, w) := serveAll arrivals w
    (reply :: replies, w)

end

namespace Veil
variable {τ : Type} {P : Platform τ} {settings : Settings} {V : Veil} {w w' : World P.fernet}

variable (V) in
/-- Two worlds that match under the veil, their tables included. -/
structure Twins {F : Fernet τ} (w w' : World F) : Prop extends V.Beside w w' where
  store : V.Stores F w.store w'.store

theorem Twins.even {s : FetchSettings} {F : Fernet τ} {w w' : World F} (twins : V.Twins w w')
    (quiet : V.logged → ∀ n, Quiet s (w.upstream n)) : V.Even s w w' :=
  ⟨_, _, twins.store, { twins with left := rfl, right := rfl, quiet := quiet }⟩

theorem respond_paired (req : Request) :
    V.Paired (F := P.fernet) settings.fetch V.Replies (respond P settings req) (respond P settings req) := by
  apply Paired.serve
  cases req with
  | authorize args => exact (replied (level_authorize args)).paired
  | callback args => exact paired_iff.mpr fun _ _ stores => .callback args stores
  | token req => exact paired_iff.mpr fun _ _ stores => .token settings req stores

variable (V) in
def Matching (r r' : Reply) : Prop := Alike V.Replies r.result r'.result ∧ r'.session = r.session

/-- One request: matching replies, and worlds that still match. -/
theorem serveOne_matching (a : Arrival) (even : V.Even settings.fetch w w') :
    V.Matching (serveOne P settings a w).1 (serveOne P settings a w').1 ∧
      V.Even settings.fetch (serveOne P settings a w).2 (serveOne P settings a w').2 := by
  obtain ⟨σ, σ', stores, held⟩ := even
  obtain ⟨replies, after⟩ := respond_paired (V := V) a.request { w with session := a.session } { w' with session := a.session }
    ⟨σ, σ', stores, { held with session := rfl }⟩
  obtain ⟨_, _, _, left⟩ := id after
  exact ⟨⟨replies, left.session⟩, after⟩

theorem serveAll_matching (arrivals : List Arrival) (even : V.Even settings.fetch w w') :
    List.Forall₂ V.Matching (serveAll P settings arrivals w).1 (serveAll P settings arrivals w').1 ∧
      V.Even settings.fetch (serveAll P settings arrivals w).2 (serveAll P settings arrivals w').2 := by
  induction arrivals generalizing w w' with
  | nil => exact ⟨.nil, even⟩
  | cons a arrivals ih =>
    obtain ⟨reply, even⟩ := serveOne_matching a even
    obtain ⟨replies, even⟩ := ih even
    exact ⟨.cons reply replies, even⟩

end Veil
end OAuthClientBridge
