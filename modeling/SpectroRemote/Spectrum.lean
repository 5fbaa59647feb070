/-!
# Spectra
-/

namespace SpectroRemote

/-- A reading of a detector at a mass. -/
structure ScanPoint where
  mass : Float
  analog : Float
deriving Repr, DecidableEq, Inhabited

/-- A completed scan: a series of points for each detector. -/
structure Spectrum where
  series : List (List ScanPoint) := []
deriving Repr, DecidableEq, Inhabited

def Spectrum.points (s : Spectrum) : List ScanPoint := s.series.flatten

end SpectroRemote
