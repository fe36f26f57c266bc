import RelationalLearning.Error
import RelationalLearning.Text.Quoted

namespace RelationalLearning.Subrole

def all : List String :=
  ["exclude category trimmer", "exclude fastprop", "exclude feature learners", "exclude imputation",
    "exclude mapping", "exclude multirel", "exclude predictors", "exclude preprocessors",
    "exclude seasonal", "exclude text field splitter", "include email", "include substring",
    "only email", "only substring"]

def validate (subroles : List String) : Except DataError Unit :=
  match subroles.filter fun subrole => !all.contains subrole with
  | [] => .ok ()
  | invalid =>
    let valid := Text.bracketed (all.map Text.quoted)
    let wrong := Text.bracketed (invalid.map Text.quoted)
    .error (.value s!"'subroles' must be one of the following: {valid}, got {wrong}")

end RelationalLearning.Subrole
