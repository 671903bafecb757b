/-!
# The Enumerations of the Public API and of MMAL

The enumerations of `raspicamtypes.h`, the MMAL enumerations that the two
implementation classes translate them to, and the `convert` functions that do
the translating. `Private_Impl` and `Private_Impl_Still` each carry a copy of
`convertMetering`, `convertExposure`, `convertAWB` and `convertImageEffect`;
the copies agree case by case, so one definition stands for both.

The `default` branch of each of these functions answers for values outside
the enumeration, which no value of the inductive types is.

## Main definitions

* `RaspicamFormat`, `RaspicamExposure`, `RaspicamAwb`, `RaspicamImageEffect`,
  `RaspicamMetering`, `RaspicamEncoding`: The public enumerations.
* `convertMetering`, `convertExposure`, `convertAwb`, `convertImageEffect`,
  `convertEncoding`: Their MMAL counterparts.
* `MmalRational`: A rational parameter value.
-/

namespace RaspiCam

/-- `RASPICAM_FORMAT`. -/
inductive RaspicamFormat
  | yuv420
  | gray
  | bgr
  | rgb
  | ignore
deriving DecidableEq

/-- `RASPICAM_EXPOSURE`. -/
inductive RaspicamExposure
  | off
  | auto
  | night
  | nightpreview
  | backlight
  | spotlight
  | sports
  | snow
  | beach
  | verylong
  | fixedfps
  | antishake
  | fireworks
deriving DecidableEq

/-- `RASPICAM_AWB`. -/
inductive RaspicamAwb
  | off
  | auto
  | sunlight
  | cloudy
  | shade
  | tungsten
  | fluorescent
  | incandescent
  | flash
  | horizon
deriving DecidableEq

/-- `RASPICAM_IMAGE_EFFECT`. -/
inductive RaspicamImageEffect
  | none
  | negative
  | solarize
  | sketch
  | denoise
  | emboss
  | oilpaint
  | hatch
  | gpen
  | pastel
  | watercolor
  | film
  | blur
  | saturation
  | colorswap
  | washedout
  | posterise
  | colorpoint
  | colorbalance
  | cartoon
deriving DecidableEq

/-- `RASPICAM_METERING`. -/
inductive RaspicamMetering
  | average
  | spot
  | backlit
  | matrix
deriving DecidableEq

/-- `RASPICAM_ENCODING`. -/
inductive RaspicamEncoding
  | jpeg
  | bmp
  | gif
  | png
  | rgb
deriving DecidableEq

/-- `MMAL_PARAM_EXPOSUREMETERINGMODE_T`. -/
inductive MmalExposureMeteringMode
  | average
  | spot
  | backlit
  | matrix
deriving DecidableEq

/-- `MMAL_PARAM_EXPOSUREMODE_T`. -/
inductive MmalExposureMode
  | off
  | auto
  | night
  | nightpreview
  | backlight
  | spotlight
  | sports
  | snow
  | beach
  | verylong
  | fixedfps
  | antishake
  | fireworks
deriving DecidableEq

/-- `MMAL_PARAM_AWBMODE_T`. -/
inductive MmalAwbMode
  | off
  | auto
  | sunlight
  | cloudy
  | shade
  | tungsten
  | fluorescent
  | incandescent
  | flash
  | horizon
deriving DecidableEq

/-- `MMAL_PARAM_IMAGEFX_T`, the values the library uses. -/
inductive MmalImageFx
  | none
  | negative
  | solarize
  | sketch
  | denoise
  | emboss
  | oilpaint
  | hatch
  | gpen
  | pastel
  | watercolour
  | film
  | blur
  | saturation
  | colourswap
  | washedout
  | posterise
  | colourpoint
  | colourbalance
  | cartoon
deriving DecidableEq

/-- `MMAL_PARAM_MIRROR_T`. -/
inductive MmalMirror
  | none
  | vertical
  | horizontal
  | both
deriving DecidableEq

/-- The `MMAL_FOURCC_T` encodings the library names. `invalid` is the `-1`
    that `convertEncoding` returns for an unknown encoding. -/
inductive MmalEncoding
  | i420
  | rgb24
  | bgr24
  | opaq
  | jpeg
  | bmp
  | gif
  | png
  | invalid
deriving DecidableEq

/-- `MMAL_RATIONAL_T`. -/
structure MmalRational where
  num : Int
  den : Int
deriving DecidableEq

/-- `convertMetering`. -/
def convertMetering : RaspicamMetering → MmalExposureMeteringMode
  | .average => .average
  | .spot => .spot
  | .backlit => .backlit
  | .matrix => .matrix

/-- `convertExposure`. -/
def convertExposure : RaspicamExposure → MmalExposureMode
  | .off => .off
  | .auto => .auto
  | .night => .night
  | .nightpreview => .nightpreview
  | .backlight => .backlight
  | .spotlight => .spotlight
  | .sports => .sports
  | .snow => .snow
  | .beach => .beach
  | .verylong => .verylong
  | .fixedfps => .fixedfps
  | .antishake => .antishake
  | .fireworks => .fireworks

/-- `convertAWB`. -/
def convertAwb : RaspicamAwb → MmalAwbMode
  | .off => .off
  | .auto => .auto
  | .sunlight => .sunlight
  | .cloudy => .cloudy
  | .shade => .shade
  | .tungsten => .tungsten
  | .fluorescent => .fluorescent
  | .incandescent => .incandescent
  | .flash => .flash
  | .horizon => .horizon

/-- `convertImageEffect`. -/
def convertImageEffect : RaspicamImageEffect → MmalImageFx
  | .none => .none
  | .negative => .negative
  | .solarize => .solarize
  | .sketch => .sketch
  | .denoise => .denoise
  | .emboss => .emboss
  | .oilpaint => .oilpaint
  | .hatch => .hatch
  | .gpen => .gpen
  | .pastel => .pastel
  | .watercolor => .watercolour
  | .film => .film
  | .blur => .blur
  | .saturation => .saturation
  | .colorswap => .colourswap
  | .washedout => .washedout
  | .posterise => .posterise
  | .colorpoint => .colourpoint
  | .colorbalance => .colourbalance
  | .cartoon => .cartoon

/-- `Private_Impl_Still::convertEncoding`. Raw RGB is taken from a bitmap, so
    it is requested as one. -/
def convertEncoding : RaspicamEncoding → MmalEncoding
  | .jpeg => .jpeg
  | .bmp => .bmp
  | .gif => .gif
  | .png => .png
  | .rgb => .bmp

end RaspiCam
