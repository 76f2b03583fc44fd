/-!
# Texts of helpers for values

Functions that take arrays and objects apart, put them together and pass
modules on.
In these texts `⟨` and `⟩` stand for braces.
-/

namespace ScriptHost.Helper

/-- It copies the first elements of something with a length. -/
def arrayLikeToArrayText : String :=
  "function _array_like_to_array(arr, len) ⟨
     if (len == null || len > arr.length) len = arr.length;
     for(var i = 0, arr2 = new Array(len); i < len; i++)arr2[i] = arr[i];
     return arr2;
   ⟩"

/-- It passes an array on. -/
def arrayWithHolesText : String :=
  "function _array_with_holes(arr) ⟨
     if (Array.isArray(arr)) return arr;
   ⟩"

/-- It copies an array. -/
def arrayWithoutHolesText : String :=
  "function _array_without_holes(arr) ⟨
     if (Array.isArray(arr)) return _array_like_to_array(arr);
   ⟩"

/-- It defines accessors of an object. -/
def defineEnumerablePropertiesText : String :=
  "function _define_enumerable_properties(obj, descs) ⟨
     for(var key in descs)⟨
       var desc = descs[key];
       desc.configurable = desc.enumerable = true;
       if ('value' in desc) desc.writable = true;
       Object.defineProperty(obj, key, desc);
     ⟩
     if (Object.getOwnPropertySymbols) ⟨
       var objectSymbols = Object.getOwnPropertySymbols(descs);
       for(var i = 0; i < objectSymbols.length; i++)⟨
         var sym = objectSymbols[i];
         var desc = descs[sym];
         desc.configurable = desc.enumerable = true;
         if ('value' in desc) desc.writable = true;
         Object.defineProperty(obj, sym, desc);
       ⟩
     ⟩
     return obj;
   ⟩"

/-- It defines a property. -/
def definePropertyText : String :=
  "function _define_property(obj, key, value) ⟨
     if (key in obj) ⟨
       Object.defineProperty(obj, key, ⟨
         value: value,
         enumerable: true,
         configurable: true,
         writable: true
       ⟩);
     ⟩ else ⟨
       obj[key] = value;
     ⟩
     return obj;
   ⟩"

/-- It exports what another module exports. -/
def exportStarText : String :=
  "function _export_star(from, to) ⟨
     Object.keys(from).forEach(function(k) ⟨
       if (k !== 'default' && !Object.prototype.hasOwnProperty.call(to, k)) ⟨
         Object.defineProperty(to, k, ⟨
           enumerable: true,
           get: function() ⟨
             return from[k];
           ⟩
         ⟩);
       ⟩
     ⟩);
     return from;
   ⟩"

/-- It copies the properties of objects into one that is given. -/
def assignAllText : String :=
  "function _extends() ⟨
     _extends = Object.assign || function(target) ⟨
       for(var i = 1; i < arguments.length; i++)⟨
         var source = arguments[i];
         for(var key in source)⟨
           if (Object.prototype.hasOwnProperty.call(source, key)) ⟨
             target[key] = source[key];
           ⟩
         ⟩
       ⟩
       return target;
     ⟩;
     return _extends.apply(this, arguments);
   ⟩"

/-- It tests for instances of a class. -/
def instanceOfText : String :=
  "function _instanceof(left, right) ⟨
     '@swc/helpers - instanceof';
     if (right != null && typeof Symbol !== 'undefined' && right[Symbol.hasInstance]) ⟨
       return !!right[Symbol.hasInstance](left);
     ⟩ else ⟨
       return left instanceof right;
     ⟩
   ⟩"

/-- It passes a module on whose default is wanted. -/
def interopRequireDefaultText : String :=
  "function _interop_require_default(obj) ⟨
     return obj && obj.__esModule ? obj : ⟨
       default: obj
     ⟩;
   ⟩"

/-- It passes a module on whose names are wanted. -/
def interopRequireWildcardText : String :=
  "function _getRequireWildcardCache(nodeInterop) ⟨
     if (typeof WeakMap !== 'function') return null;
     var cacheBabelInterop = new WeakMap();
     var cacheNodeInterop = new WeakMap();
     return (_getRequireWildcardCache = function(nodeInterop) ⟨
       return nodeInterop ? cacheNodeInterop : cacheBabelInterop;
     ⟩)(nodeInterop);
   ⟩
   function _interop_require_wildcard(obj, nodeInterop) ⟨
     if (!nodeInterop && obj && obj.__esModule) ⟨
       return obj;
     ⟩
     if (obj === null || typeof obj !== 'object' && typeof obj !== 'function') ⟨
       return ⟨
         default: obj
       ⟩;
     ⟩
     var cache = _getRequireWildcardCache(nodeInterop);
     if (cache && cache.has(obj)) ⟨
       return cache.get(obj);
     ⟩
     var newObj = ⟨
       __proto__: null
     ⟩;
     var hasPropertyDescriptor = Object.defineProperty && Object.getOwnPropertyDescriptor;
     for(var key in obj)⟨
       if (key !== 'default' && Object.prototype.hasOwnProperty.call(obj, key)) ⟨
         var desc = hasPropertyDescriptor ? Object.getOwnPropertyDescriptor(obj, key) : null;
         if (desc && (desc.get || desc.set)) ⟨
           Object.defineProperty(newObj, key, desc);
         ⟩ else ⟨
           newObj[key] = obj[key];
         ⟩
       ⟩
     ⟩
     newObj.default = obj;
     if (cache) ⟨
       cache.set(obj, newObj);
     ⟩
     return newObj;
   ⟩"

/-- It collects what can be iterated. -/
def iterableToArrayText : String :=
  "function _iterable_to_array(iter) ⟨
     if (typeof Symbol !== 'undefined' && iter[Symbol.iterator] != null || iter['@@iterator'] != null) return Array.from(iter);
   ⟩"

/-- It collects the first values of an iteration. -/
def iterableToArrayLimitText : String :=
  "function _iterable_to_array_limit(arr, i) ⟨
     var _i = arr == null ? null : typeof Symbol !== 'undefined' && arr[Symbol.iterator] || arr['@@iterator'];
     if (_i == null) return;
     var _arr = [];
     var _n = true;
     var _d = false;
     var _s, _e;
     try ⟨
       for(_i = _i.call(arr); !(_n = (_s = _i.next()).done); _n = true)⟨
         _arr.push(_s.value);
         if (i && _arr.length === i) break;
       ⟩
     ⟩ catch (err) ⟨
       _d = true;
       _e = err;
     ⟩ finally⟨
       try ⟨
         if (!_n && _i['return'] != null) _i['return']();
       ⟩ finally⟨
         if (_d) throw _e;
       ⟩
     ⟩
     return _arr;
   ⟩"

/-- It refuses to take something apart. -/
def nonIterableRestText : String :=
  "function _non_iterable_rest() ⟨
     throw new TypeError('Invalid attempt to destructure non-iterable instance.\\\\nIn order to be iterable, non-array objects must have a [Symbol.iterator]() method.');
   ⟩"

/-- It refuses to spread something. -/
def nonIterableSpreadText : String :=
  "function _non_iterable_spread() ⟨
     throw new TypeError('Invalid attempt to spread non-iterable instance.\\\\nIn order to be iterable, non-array objects must have a [Symbol.iterator]() method.');
   ⟩"

/-- It refuses to take nothing apart. -/
def objectDestructuringEmptyText : String :=
  "function _object_destructuring_empty(o) ⟨
     if (o === null || o === void 0) throw new TypeError('Cannot destructure ' + o);
     return o;
   ⟩"

/-- It copies the properties of objects into one. -/
def objectSpreadText : String :=
  "function _object_spread(target) ⟨
     for(var i = 1; i < arguments.length; i++)⟨
       var source = arguments[i] != null ? arguments[i] : ⟨⟩;
       var ownKeys = Object.keys(source);
       if (typeof Object.getOwnPropertySymbols === 'function') ⟨
         ownKeys = ownKeys.concat(Object.getOwnPropertySymbols(source).filter(function(sym) ⟨
           return Object.getOwnPropertyDescriptor(source, sym).enumerable;
         ⟩));
       ⟩
       ownKeys.forEach(function(key) ⟨
         _define_property(target, key, source[key]);
       ⟩);
     ⟩
     return target;
   ⟩"

/-- It defines the properties of an object on another. -/
def objectSpreadPropsText : String :=
  "function ownKeys(object, enumerableOnly) ⟨
     var keys = Object.keys(object);
     if (Object.getOwnPropertySymbols) ⟨
       var symbols = Object.getOwnPropertySymbols(object);
       if (enumerableOnly) ⟨
         symbols = symbols.filter(function(sym) ⟨
           return Object.getOwnPropertyDescriptor(object, sym).enumerable;
         ⟩);
       ⟩
       keys.push.apply(keys, symbols);
     ⟩
     return keys;
   ⟩
   function _object_spread_props(target, source) ⟨
     source = source != null ? source : ⟨⟩;
     if (Object.getOwnPropertyDescriptors) ⟨
       Object.defineProperties(target, Object.getOwnPropertyDescriptors(source));
     ⟩ else ⟨
       ownKeys(Object(source)).forEach(function(key) ⟨
         Object.defineProperty(target, key, Object.getOwnPropertyDescriptor(source, key));
       ⟩);
     ⟩
     return target;
   ⟩"

/-- It copies an object but for some properties. -/
def objectWithoutPropertiesText : String :=
  "function _object_without_properties(source, excluded) ⟨
     if (source == null) return ⟨⟩;
     var target = _object_without_properties_loose(source, excluded);
     var key, i;
     if (Object.getOwnPropertySymbols) ⟨
       var sourceSymbolKeys = Object.getOwnPropertySymbols(source);
       for(i = 0; i < sourceSymbolKeys.length; i++)⟨
         key = sourceSymbolKeys[i];
         if (excluded.indexOf(key) >= 0) continue;
         if (!Object.prototype.propertyIsEnumerable.call(source, key)) continue;
         target[key] = source[key];
       ⟩
     ⟩
     return target;
   ⟩"

/-- It copies an object but for some keys. -/
def objectWithoutPropertiesLooseText : String :=
  "function _object_without_properties_loose(source, excluded) ⟨
     if (source == null) return ⟨⟩;
     var target = ⟨⟩;
     var sourceKeys = Object.keys(source);
     var key, i;
     for(i = 0; i < sourceKeys.length; i++)⟨
       key = sourceKeys[i];
       if (excluded.indexOf(key) >= 0) continue;
       target[key] = source[key];
     ⟩
     return target;
   ⟩"

/-- It takes the first values of an iteration. -/
def slicedToArrayText : String :=
  "function _sliced_to_array(arr, i) ⟨
     return _array_with_holes(arr) || _iterable_to_array_limit(arr, i) || _unsupported_iterable_to_array(arr, i) || _non_iterable_rest();
   ⟩"

/-- It makes the pieces of a tagged template. -/
def taggedTemplateLiteralText : String :=
  "function _tagged_template_literal(strings, raw) ⟨
     if (!raw) ⟨
       raw = strings.slice(0);
     ⟩
     return Object.freeze(Object.defineProperties(strings, ⟨
       raw: ⟨
         value: Object.freeze(raw)
       ⟩
     ⟩));
   ⟩"

/-- It collects the values of an iteration. -/
def toArrayText : String :=
  "function _to_array(arr) ⟨
     return _array_with_holes(arr) || _iterable_to_array(arr) || _unsupported_iterable_to_array(arr) || _non_iterable_rest();
   ⟩"

/-- It copies the values of an iteration. -/
def toConsumableArrayText : String :=
  "function _to_consumable_array(arr) ⟨
     return _array_without_holes(arr) || _iterable_to_array(arr) || _unsupported_iterable_to_array(arr) || _non_iterable_spread();
   ⟩"

/-- It makes a value one that is no object. -/
def toPrimitiveText : String :=
  "function _to_primitive(input, hint) ⟨
     if (_type_of(input) !== 'object' || input === null) return input;
     var prim = input[Symbol.toPrimitive];
     if (prim !== undefined) ⟨
       var res = prim.call(input, hint || 'default');
       if (_type_of(res) !== 'object') return res;
       throw new TypeError('@@toPrimitive must return a primitive value.');
     ⟩
     return (hint === 'string' ? String : Number)(input);
   ⟩"

/-- It makes a value the key of a property. -/
def toPropertyKeyText : String :=
  "function _to_property_key(arg) ⟨
     var key = _to_primitive(arg, 'string');
     return _type_of(key) === 'symbol' ? key : String(key);
   ⟩"

/-- It names the type of a value. -/
def typeOfText : String :=
  "function _type_of(obj) ⟨
     '@swc/helpers - typeof';
     return obj && typeof Symbol !== 'undefined' && obj.constructor === Symbol ? 'symbol' : typeof obj;
   ⟩"

/-- It collects what has a length. -/
def unsupportedIterableToArrayText : String :=
  "function _unsupported_iterable_to_array(o, minLen) ⟨
     if (!o) return;
     if (typeof o === 'string') return _array_like_to_array(o, minLen);
     var n = Object.prototype.toString.call(o).slice(8, -1);
     if (n === 'Object' && o.constructor) n = o.constructor.name;
     if (n === 'Map' || n === 'Set') return Array.from(n);
     if (n === 'Arguments' || /^(?:Ui|I)nt(?:8|16|32)(?:Clamped)?Array$/.test(n)) return _array_like_to_array(o, minLen);
   ⟩"

end ScriptHost.Helper
