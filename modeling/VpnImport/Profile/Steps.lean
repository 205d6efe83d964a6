import VpnImport.Profile.Basic

namespace VpnImport
namespace Profile

/-- A step of making a profile out of the one its kind starts from. -/
inductive Step where
  | name (value : String)
  | label (value : String)
  | port (value : UInt16)
  | encryption (value : String)
  | compression (value : Bool)
  | record (key value : String)
deriving DecidableEq, Repr

def step (p : Profile) : Step → Profile
  | .name value => { p with name := value }
  | .label value => { p with protocol := value }
  | .port value => { p with port := value }
  | .encryption value => { p with encryption := value }
  | .compression value => { p with compression := value }
  | .record key value => p.record key value

/-- Steps taken one after the other. -/
def steps (p : Profile) (ss : List Step) : Profile :=
  ss.foldl step p

end Profile
end VpnImport
