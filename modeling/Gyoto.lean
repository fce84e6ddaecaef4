import Gyoto.Astrobj.Features
import Gyoto.Astrobj.Dispatch
import Gyoto.Astrobj.Resolved
import Gyoto.Astrobj.Budget
import Gyoto.Astrobj.Refinement
import Gyoto.Astrobj.Object
import Gyoto.Astrobj.Consistency
import Gyoto.Astrobj.Absorption
import Gyoto.Astrobj.Integration
import Gyoto.Astrobj.Convergence
import Gyoto.Utils.Split
import Gyoto.Astrobj.Properties
import Gyoto.Astrobj.Hit
import Gyoto.Astrobj.ProcessHit
import Gyoto.Astrobj.NullSpectrum
import Gyoto.Astrobj.TransmissionUpdates
import Gyoto.Astrobj.Accumulation
import Gyoto.Astrobj.Writes
import Gyoto.Astrobj.Image
import Gyoto.Utils.Atof
import Gyoto.Utils.Debug
import Gyoto.Utils.Bessel
import Gyoto.Utils.Help
import Gyoto.Utils.Convert
import Gyoto.Astrobj.DeltaMax
