import FunctionCatalog.Builtin.Family
import FunctionCatalog.Registry
set_option autoImplicit false

namespace FunctionCatalog

inductive Section where
  | core
  | vector
  | series
  | statistics
  | financial
  | data
  deriving DecidableEq

namespace Section

def all : List Section := [.core, .vector, .series, .statistics, .financial, .data]

def label : Section → String
  | .core => "core"
  | .vector => "vector"
  | .series => "series"
  | .statistics => "statistics"
  | .financial => "financial"
  | .data => "data"

def ofLabel? (label : String) : Option Section := all.find? fun s => s.label = label

def coreFunctions : List Signature :=
  [ (Draft.comparison "__eq__" .any "Tests two values for equality.").sealed,
    (Draft.comparison "__neq__" .any "Tests two values for inequality.").sealed,
    (Draft.comparison "__gt__" .scalar
      "Tests whether the left value is greater than the right.").sealed,
    (Draft.comparison "__lt__" .scalar
      "Tests whether the left value is less than the right.").sealed,
    (Draft.comparison "__gte__" .scalar
      "Tests whether the left value is greater than or equal to the right.").sealed,
    (Draft.comparison "__lte__" .scalar
      "Tests whether the left value is less than or equal to the right.").sealed,
    (Draft.variadicLogical "__and__" "True when every operand is true.").sealed,
    (Draft.variadicLogical "__or__" "True when at least one operand is true.").sealed,
    (Draft.named "__not__"
      |>.describe (Operator.description "__not__" "Negates a boolean value.")
      |>.require "condition" .boolean "The value to negate."
      |>.returning .boolean
      |>.tag .internalPure).sealed,
    (Draft.variadicMath "add" "Adds all operands element-wise.").sealed,
    (Draft.binaryMath "subtract"
      "Subtracts the right operand from the left, element-wise.").sealed,
    (Draft.variadicMath "multiply" "Multiplies all operands element-wise.").sealed,
    (Draft.binaryMath "divide"
      "Divides the left operand by the right, element-wise.").sealed,
    (Draft.binaryMath "power"
      "Raises the left operand to the power of the right, element-wise.").sealed,
    (Draft.named "identity"
      |>.describe "Returns its argument unchanged."
      |>.require "value" .any "The value to return."
      |>.representedBy .any .firstArgument
      |>.tag .pure).sealed,
    (Draft.unaryScalar "log" "Calculates the natural logarithm of a value.").sealed,
    (Draft.unaryScalar "log10" "Calculates the base-10 logarithm of a value.").sealed,
    (Draft.unaryScalar "exp" "Calculates e raised to the power of a value.").sealed,
    (Draft.unaryScalar "sin" "Calculates the sine of a value in radians.").sealed,
    (Draft.unaryScalar "cos" "Calculates the cosine of a value in radians.").sealed,
    (Draft.unaryScalar "tan" "Calculates the tangent of a value in radians.").sealed ]

def vectorFunctions : List Signature :=
  [ (Draft.named "ComposeVector"
      |>.describe "Creates a new vector from a series of values."
      |>.takeRest "value" .any 1
        "The values to include in the vector. Input vectors will be flattened."
      |>.returning .vector
      |>.tag .pure).sealed,
    (Draft.named "SumVector"
      |>.describe "Calculates the sum of all elements in a vector."
      |>.require "vector" .vector "The input vector."
      |>.returning .scalar
      |>.tag .pure).sealed,
    (Draft.named "VectorDelta"
      |>.describe "Calculates the period-over-period change for a vector."
      |>.require "vector" .vector "The input vector."
      |>.returning .vector
      |>.tag .pure).sealed,
    (Draft.named "GetElement"
      |>.describe "Retrieves an element from a vector at a specific index."
      |>.require "vector" .vector "The source vector."
      |>.require "index" .scalar
        "The zero-based index of the element. Negative indices count from the end."
      |>.returning .scalar
      |>.tag .pure).sealed,
    (Draft.named "DeleteElement"
      |>.describe "Returns a new vector with the element at the specified index removed."
      |>.require "vector" .vector "The source vector."
      |>.require "index" .scalar
        "The zero-based index of the element to remove. Negative indices count from the end."
      |>.returning .vector
      |>.tag .pure).sealed ]

def seriesFunctions : List Signature :=
  [ (Draft.named "CompoundSerie"
      |>.describe "Projects a base value forward using a vector of period-specific growth rates."
      |>.require "base_value" .scalar "The starting scalar value."
      |>.require "rates_vector" .vector "A vector of growth rates for each period."
      |>.returning .vector
      |>.tag .pure).sealed,
    (Draft.named "GrowSerie"
      |>.describe "Projects a series by applying a constant growth rate."
      |>.require "base_value" .scalar "The starting scalar value."
      |>.require "growth_rate" .scalar
        "The constant growth rate to apply each period (e.g., 0.05 for 5%)."
      |>.require "periods" .scalar "The number of periods to project forward."
      |>.returning .vector
      |>.tag .pure).sealed,
    (Draft.named "InterpolateSerie"
      |>.describe "Creates a vector by linearly interpolating between a start and end value."
      |>.require "start_value" .scalar "The scalar value at the beginning of the series."
      |>.require "end_value" .scalar "The scalar value at the end of the series."
      |>.require "periods" .scalar "The total number of periods in the series."
      |>.returning .vector
      |>.tag .pure).sealed ]

def statisticsFunctions : List Signature :=
  [ (Draft.distribution "Normal" "Samples from a normal distribution."
      [("mean", "The mean of the distribution."), ("std_dev", "The standard deviation.")]).sealed,
    (Draft.distribution "Lognormal" "Samples from a log-normal distribution."
      [("log_mean", "The mean of the underlying normal distribution."),
       ("log_std_dev",
         "The standard deviation of the underlying normal distribution.")]).sealed,
    (Draft.distribution "Beta" "Samples from a beta distribution."
      [("alpha", "The alpha shape parameter."), ("beta", "The beta shape parameter.")]).sealed,
    (Draft.distribution "Uniform" "Samples uniformly between two bounds."
      [("min", "The lower bound."), ("max", "The upper bound.")]).sealed,
    (Draft.distribution "Bernoulli" "Returns 1 with probability p and 0 otherwise."
      [("p", "The probability of success, between 0 and 1.")]).sealed,
    (Draft.distribution "Pert" "Samples from a PERT distribution."
      [("min", "The minimum value."), ("mode", "The most likely value."),
       ("max", "The maximum value.")]).sealed,
    (Draft.distribution "Triangular" "Samples from a triangular distribution."
      [("min", "The minimum value."), ("mode", "The most likely value."),
       ("max", "The maximum value.")]).sealed ]

def financialFunctions : List Signature :=
  [ (Draft.named "Npv"
      |>.describe "Calculates the Net Present Value (Npv) of a series of cash flows."
      |>.require "rate" .scalar "The discount rate per period."
      |>.require "cashflows" .vector "A vector of cash flows."
      |>.returning .scalar
      |>.tag .pure).sealed,
    (Draft.named "CapitalizeExpenses"
      |>.describe ("Calculates the value of capitalized assets (e.g., R&D) and the amortization "
        ++ "for the current year. Returns the total capitalized asset value and the amortization "
        ++ "for the current year.")
      |>.require "current_expense" .scalar "The expense in the current period."
      |>.require "past_expenses" .vector
        "A vector of expenses from prior periods, oldest first."
      |>.require "amortization_period" .scalar
        "The number of years over which the expense is amortized."
      |>.returning (.tupleOf [.scalar, .scalar])
      |>.tag .pure).sealed,
    (Draft.named "BlackScholes"
      |>.describe "Calculates the price of a European option using the Black-Scholes model."
      |>.require "spot" .scalar "The current spot price of the underlying asset."
      |>.require "strike" .scalar "The strike price of the option."
      |>.require "rate" .scalar "The annualized risk-free interest rate (e.g., 0.05 for 5%)."
      |>.require "time_to_maturity" .scalar "The time to expiration in years."
      |>.require "volatility" .scalar
        "The annualized volatility of the asset's returns (e.g., 0.2 for 20%)."
      |>.require "option_type" .string
        "The type of option to price. Must be the string 'call' or 'put'."
      |>.returning .scalar
      |>.tag .pure).sealed ]

/-- The second pair has the names that were in use before the present convention. -/
def dataFunctions : List Signature :=
  [ (Draft.readScalar "ReadCsvScalar" .preTrial).sealed,
    (Draft.readVector "ReadCsvVector" .preTrial).sealed,
    (Draft.readScalar "read_csv_scalar" .deprecatedPreTrial).sealed,
    (Draft.readVector "read_csv_vector" .deprecatedPreTrial).sealed ]

def signatures : Section → List Signature
  | .core => coreFunctions
  | .vector => vectorFunctions
  | .series => seriesFunctions
  | .statistics => statisticsFunctions
  | .financial => financialFunctions
  | .data => dataFunctions

end Section

namespace Registry

def builtin : Registry :=
  (Section.all.foldl (fun r s => (r.registerEach s.signatures).1) empty).freeze

end Registry

end FunctionCatalog
